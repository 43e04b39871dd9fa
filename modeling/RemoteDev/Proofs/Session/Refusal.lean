import RemoteDev.Proofs.Command.Answer
import RemoteDev.Proofs.Field.Written
import RemoteDev.Proofs.Session.Calls
import RemoteDev.Proofs.Transport.Scripts
import RemoteDev.Proofs.Wire.Reply

/-! What becomes of the server's refusals, which are the replies whose body starts with a negative
number. They are yielded and reported as they are, save for the one that tells a probe that nothing
is at its path. -/
namespace RemoteDev
namespace Reply

open FieldReader

/-- A message in which the server refuses with a code. Its body is a negative number that ends with
the first colon, and then what the server says. -/
structure Refuses (raw : Bytes) (code : Int) (rest : Bytes) : Prop where
  begins : ∃ line ∈ statusLines, line <+: raw
  body : ∃ head digits, splitAtFirst headEnd raw = some (head, digits ++ colon :: rest) ∧
    colon ∉ digits ∧ numeral digits = .ok code
  negative : code < 0

theorem refuses_of_signed {raw head rest : Bytes} {code : Int}
    (hbegins : ∃ line ∈ statusLines, line <+: raw)
    (hsplit : splitAtFirst headEnd raw = some (head, encodeText (signedText code) ++ colon :: rest))
    (hnegative : code < 0) (hrange : Text.inWordRange code = true) : Refuses raw code rest where
  begins := hbegins
  body := ⟨head, _, hsplit, colon_notMem_signed code, numeral_signed hrange⟩
  negative := hnegative

theorem refuses_iff {raw rest : Bytes} {code : Int} :
    Refuses raw code rest ↔ ∃ body, bodyOf? raw = some body ∧
      number.run body = .ok (code, rest) ∧ code < 0 := by
  constructor
  · rintro ⟨hbegins, ⟨head, digits, hsplit, hcolon, hdigits⟩, hnegative⟩
    exact ⟨_, bodyOf?_eq_some_iff.2 ⟨hbegins, head, hsplit⟩,
      number_eq_ok.2 ⟨digits, splitColon_append hcolon rest, hdigits⟩, hnegative⟩
  · rintro ⟨body, hbody, hnumber, hnegative⟩
    obtain ⟨hbegins, head, hsplit⟩ := bodyOf?_eq_some_iff.1 hbody
    obtain ⟨digits, hfirst, hdigits⟩ := number_eq_ok.1 hnumber
    obtain ⟨rfl, hcolon⟩ := splitColon_eq_some_iff.1 hfirst
    exact ⟨hbegins, ⟨head, digits, hsplit, hcolon, hdigits⟩, hnegative⟩

theorem parse_eq_server_iff {raw : Bytes} {code : Int} {message : String} :
    parse raw = .error (.server code message) ↔
      ∃ rest, Refuses raw code rest ∧ message = Text.lossy rest := by
  constructor
  · intro h
    unfold parse at h
    split at h
    case h_1 => cases h
    case h_2 body hbody =>
      split at h
      case h_1 => cases h
      case h_2 count rest hnumber =>
        split at h
        case isTrue hnegative =>
          cases h
          exact ⟨rest, refuses_iff.2 ⟨body, hbody, hnumber, hnegative⟩, rfl⟩
        case isFalse => cases h
  · rintro ⟨rest, hrefuses, rfl⟩
    obtain ⟨body, hbody, hnumber, hnegative⟩ := refuses_iff.1 hrefuses
    simp only [StateT.run] at hnumber
    simp only [parse, hbody, hnumber, hnegative, if_true]

end Reply

namespace Session

variable {σ : Type} {t : Transport σ} {s : Session σ}

def Delivers (t : Transport σ) (s : Session σ) (c : Command) (raw : Bytes) : Prop :=
  ∃ request buffer, c.request = .ok request ∧
    (t.exchange s.endpoint.host s.endpoint.port (messageOf s.endpoint request) s.stream).1 =
      .ok buffer ∧ buffer.bytes = raw

theorem replyTo_of_delivers {c : Command} {raw : Bytes} (h : Delivers t s c raw) :
    (replyTo t s.endpoint c.request s.stream).1 = Reply.parse raw := by
  obtain ⟨request, buffer, hrequest, hexchange, rfl⟩ := h
  rw [hrequest, replyTo, ask]
  split
  case h_1 error stream' herror =>
    rw [herror] at hexchange
    cases hexchange
  case h_2 buffer' stream' hbuffer =>
    rw [hbuffer] at hexchange
    cases hexchange
    rfl

theorem replyTo_of_interruption {c : Command} {request : Request} {e : TransportError}
    (hrequest : c.request = .ok request)
    (h : (t.exchange s.endpoint.host s.endpoint.port (messageOf s.endpoint request) s.stream).1 =
      .error e) : (replyTo t s.endpoint c.request s.stream).1 = .error (.transport e) := by
  rw [hrequest, replyTo, ask]
  rcases hexchange : t.exchange s.endpoint.host s.endpoint.port (messageOf s.endpoint request)
    s.stream with ⟨found | reply, stream'⟩
  · rw [hexchange] at h
    cases h
    rfl
  · rw [hexchange] at h
    cases h

/-- All that can come of a request: there is none, the exchange fails, or it delivers a message. -/
theorem replyTo_cases (t : Transport σ) (s : Session σ) (c : Command) :
    (∃ f, c.request = .error f ∧ (replyTo t s.endpoint c.request s.stream).1 = .error f) ∨
      (∃ request e, c.request = .ok request ∧
        (t.exchange s.endpoint.host s.endpoint.port (messageOf s.endpoint request) s.stream).1 =
          .error e ∧ (replyTo t s.endpoint c.request s.stream).1 = .error (.transport e)) ∨
      ∃ raw, Delivers t s c raw ∧
        (replyTo t s.endpoint c.request s.stream).1 = Reply.parse raw := by
  cases hrequest : c.request with
  | error f => exact .inl ⟨f, rfl, rfl⟩
  | ok request =>
    rw [← hrequest]
    cases hexchange : (t.exchange s.endpoint.host s.endpoint.port (messageOf s.endpoint request)
      s.stream).1 with
    | error e =>
      have hreply := replyTo_of_interruption hrequest hexchange
      exact .inr (.inl ⟨request, e, hrequest, hexchange, hreply⟩)
    | ok reply =>
      have hdelivers : Delivers t s c reply.bytes := ⟨request, reply, hrequest, hexchange, rfl⟩
      exact .inr (.inr ⟨reply.bytes, hdelivers, replyTo_of_delivers hdelivers⟩)

theorem replyTo_eq_iff {c : Command} {outcome : Except Failure Reply}
    (hsent : ∀ f, c.request = .error f → outcome ≠ .error f)
    (hthrough : ∀ e, outcome ≠ .error (.transport e)) :
    (replyTo t s.endpoint c.request s.stream).1 = outcome ↔
      ∃ raw, Delivers t s c raw ∧ Reply.parse raw = outcome := by
  constructor
  · rintro rfl
    rcases replyTo_cases t s c with
      ⟨f, hrequest, hreply⟩ | ⟨request, e, -, -, hreply⟩ | ⟨raw, hdelivers, hreply⟩
    · exact absurd hreply (hsent f hrequest)
    · exact absurd hreply (hthrough e)
    · exact ⟨raw, hdelivers, hreply.symm⟩
  · rintro ⟨raw, hdelivers, rfl⟩
    exact replyTo_of_delivers hdelivers

theorem run_of_delivers {c : Command} {raw : Bytes} (h : Delivers t s c raw) :
    (s.run t c).1 = c.settle ((Reply.parse raw).bind c.decode) := by
  rw [run_eq, ← replyTo_of_delivers h]

theorem run_of_refuses {c : Command} {raw rest : Bytes} {code : Int} (h : Delivers t s c raw)
    (hrefuses : Reply.Refuses raw code rest)
    (hother : ∀ path, c = .file (.probe path) → ¬ FileCommand.TellsAbsence code (Text.lossy rest)) :
    (s.run t c).1 = .error (.server code (Text.lossy rest)) ∧
      (s.run t c).2.report = some ⟨.commandFailed, some code, Text.lossy rest, none⟩ := by
  have hparse := Reply.parse_eq_server_iff.2 ⟨rest, hrefuses, rfl⟩
  have houtcome : (s.run t c).1 = .error (.server code (Text.lossy rest)) := by
    rw [run_of_delivers h, hparse]
    exact Command.settle_server hother
  refine ⟨houtcome, ?_⟩
  rw [report_run, houtcome]
  rfl

theorem eq_of_request_probe (path : String) {f : Failure}
    (h : (Command.file (.probe path)).request = .error f) : f = .missingParameter "pathname" := by
  simp only [Command.request, FileCommand.request, FileCommand.onPath, required] at h
  split at h
  · cases h
    rfl
  · cases h

/-- A probe finds something exactly if a reply is accepted, whatever it holds. -/
theorem run_probe_eq_true_iff (path : String) :
    (s.run t (.file (.probe path))).1 = .ok true ↔
      ∃ raw reply, Delivers t s (.file (.probe path)) raw ∧ Reply.parse raw = .ok reply := by
  rw [run_eq]
  refine Command.settle_probe_eq_true_iff.trans ?_
  constructor
  · rintro ⟨reply, hreply⟩
    have hsuccess (f : Failure) : (.ok reply : Except Failure Reply) ≠ .error f := nofun
    obtain ⟨raw, hdelivers, hparse⟩ :=
      (replyTo_eq_iff (fun f _ => hsuccess f) fun _ => hsuccess _).1 hreply
    exact ⟨raw, reply, hdelivers, hparse⟩
  · rintro ⟨raw, reply, hdelivers, hparse⟩
    exact ⟨reply, (replyTo_of_delivers hdelivers).trans hparse⟩

theorem run_probe_eq_false_iff (path : String) :
    (s.run t (.file (.probe path))).1 = .ok false ↔
      ∃ raw code rest, Delivers t s (.file (.probe path)) raw ∧ Reply.Refuses raw code rest ∧
        FileCommand.TellsAbsence code (Text.lossy rest) := by
  rw [run_eq]
  refine Command.settle_probe_eq_false_iff.trans ?_
  constructor
  · rintro ⟨code, message, hreply, htells⟩
    have hsent (f : Failure) (hf : (Command.file (.probe path)).request = .error f) :
        (.error (.server code message) : Except Failure Reply) ≠ .error f := by
      rw [eq_of_request_probe path hf]
      exact nofun
    obtain ⟨raw, hdelivers, hparse⟩ := (replyTo_eq_iff hsent fun _ => nofun).1 hreply
    obtain ⟨rest, hrefuses, rfl⟩ := Reply.parse_eq_server_iff.1 hparse
    exact ⟨raw, code, rest, hdelivers, hrefuses, htells⟩
  · rintro ⟨raw, code, rest, hdelivers, hrefuses, htells⟩
    have hparse := Reply.parse_eq_server_iff.2 ⟨rest, hrefuses, rfl⟩
    exact ⟨code, _, (replyTo_of_delivers hdelivers).trans hparse, htells⟩

/-- No refusal is lost. When the exchange of a command delivers a message in which the server
refuses, the command yields the code and what the server says, and both are reported. The only
exception is a probe that is told that nothing is at its path: it finds nothing exactly then, and
nothing is reported. It finds something exactly if a reply is accepted, whatever that holds. -/
theorem refusal_reported (t : Transport σ) (s : Session σ) :
    (∀ c raw code rest, Delivers t s c raw → Reply.Refuses raw code rest →
      (∀ path, c = .file (.probe path) → ¬ FileCommand.TellsAbsence code (Text.lossy rest)) →
      (s.run t c).1 = .error (.server code (Text.lossy rest)) ∧
        (s.run t c).2.report = some ⟨.commandFailed, some code, Text.lossy rest, none⟩) ∧
    ∀ path,
      ((s.run t (.file (.probe path))).1 = .ok false ↔
        ∃ raw code rest, Delivers t s (.file (.probe path)) raw ∧ Reply.Refuses raw code rest ∧
          FileCommand.TellsAbsence code (Text.lossy rest)) ∧
      ((s.run t (.file (.probe path))).1 = .ok false →
        (s.run t (.file (.probe path))).2.report = none) ∧
      ((s.run t (.file (.probe path))).1 = .ok true ↔
        ∃ raw reply, Delivers t s (.file (.probe path)) raw ∧ Reply.parse raw = .ok reply) := by
  refine ⟨fun c raw code rest => run_of_refuses, fun path => ?_⟩
  refine ⟨run_probe_eq_false_iff path, fun hfalse => ?_, run_probe_eq_true_iff path⟩
  rw [report_run, hfalse]
  rfl

theorem delivers_scripted {s : Session Stage} {c : Command} {request : Request} {raw : Bytes}
    {others : List Script} (hrequest : c.request = .ok request)
    (hs : s.stream.scripts = { reply := raw } :: others) : Delivers .scripted s c raw := by
  obtain ⟨buffer, stream', hexchange, hbytes⟩ := Transport.exchange_scripted hs s.endpoint.host
    s.endpoint.port (messageOf s.endpoint request)
  exact ⟨request, buffer, hrequest, by rw [hexchange], hbytes⟩

/-- The same refusal for a command that reads a missing file, and for a probe of it. -/
theorem refusal_reported_of_missing_path :
    let message := FileCommand.absence ++ "/x"
    let raw := encodeText "HTTP/1.1 200 OK\r\n\r\n" ++
      (encodeText (signedText (-1)) ++ FieldReader.colon :: encodeText message)
    let s : Session Stage := ⟨⟨"cf.local", 8500, "", "", by decide, by decide⟩,
      { scripts := [{ reply := raw }] }, none⟩
    let reading : Command := .file (.read "/x")
    let probing : Command := .file (.probe "/x")
    Delivers .scripted s reading raw ∧ Delivers .scripted s probing raw ∧
      Reply.Refuses raw (-1) (encodeText message) ∧ FileCommand.TellsAbsence (-1) message ∧
      (s.run .scripted reading).1 = .error (.server (-1) message) ∧
      (s.run .scripted probing).1 = .ok false := by
  intro message raw s reading probing
  have hreading : Delivers .scripted s reading raw := delivers_scripted (c := reading) rfl rfl
  have hprobing : Delivers .scripted s probing raw := delivers_scripted (c := probing) rfl rfl
  have hbegins : encodeText "HTTP/1.1 200 " <+: raw := by
    have hline : encodeText "HTTP/1.1 200 " <+: encodeText "HTTP/1.1 200 OK\r\n\r\n" := by decide
    exact hline.trans (List.prefix_append _ _)
  have hhead : splitAtFirst Reply.headEnd (encodeText "HTTP/1.1 200 OK\r\n\r\n") =
      some (encodeText "HTTP/1.1 200 OK", []) := by decide
  have hsplit := splitAtFirst_append_right (by decide)
    (encodeText (signedText (-1)) ++ FieldReader.colon :: encodeText message) hhead
  have hrefuses : Reply.Refuses raw (-1) (encodeText message) :=
    Reply.refuses_of_signed ⟨_, List.mem_cons_self, hbegins⟩ hsplit (by decide) (by decide)
  have hshown : Text.lossy (encodeText message) = message := Text.lossy_encodeText message
  have htells : FileCommand.TellsAbsence (-1) message := by
    refine ⟨rfl, ?_⟩
    rw [String.toList_append]
    exact List.prefix_append _ _
  obtain ⟨hreported, hprobed⟩ := refusal_reported .scripted s
  have hother (path : String) : reading ≠ .file (.probe path) := by simp [reading]
  have hread := (hreported reading raw (-1) (encodeText message) hreading hrefuses
    fun path h => absurd h (hother path)).1
  have hprobe := (hprobed "/x").1.2
    ⟨raw, -1, encodeText message, hprobing, hrefuses, hshown.symm ▸ htells⟩
  rw [hshown] at hread
  exact ⟨hreading, hprobing, hrefuses, htells, hread, hprobe⟩

end Session
end RemoteDev
