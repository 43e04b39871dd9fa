import RemoteDev.Proofs.Record.Written
import RemoteDev.Proofs.Session.Message
import RemoteDev.Proofs.Session.Refusal
import RemoteDev.Proofs.Transport.Pieces
import RemoteDev.Session.Transfer

/-! Copies of files. The bytes of a file reach the other side as they are, whatever they are, and
the disk changes only when a whole file has come. -/
namespace RemoteDev

open FieldReader StreamCall

theorem Reply.fileContent_of_fields {reply : Reply} {data modified permission rest : Bytes}
    (hcount : reply.count = 3)
    (hfields : (bytes.repeated 3).run reply.body = .ok ([data, modified, permission], rest)) :
    reply.fileContent = .ok ⟨data, Text.lossy modified, Text.lossy permission⟩ := by
  have hread : Decodes (do
      let data ← bytes
      let modified ← text
      let permission ← text
      return (⟨data, modified, permission⟩ : FileContent))
      [data, modified, permission] ⟨data, Text.lossy modified, Text.lossy permission⟩ :=
    (decodes_bytes _).cons <| (decodes_lossy _).cons <| (decodes_lossy _).map rfl
  have hexpected : expectCount ((3 : Nat) : Int) 3 = .ok () := rfl
  rw [fileContent, hcount, hexpected, ok_bind, read, value, hread _ _ hfields]
  rfl

namespace Session

variable {σ : Type} {t : Transport σ} {s : Session σ}

theorem takenBytes_of_delivers (ht : t.IsTruthful) {c : Command} {raw message : Bytes}
    (h : Delivers t s c raw) (hgives : Gives s.endpoint c message) :
    takenBytes (s.callsOf t c) = message := by
  obtain ⟨request, reply, hrequest, hexchange, -⟩ := h
  have hmessage : messageOf s.endpoint request = message := by
    have heq := hgives.message_eq
    rw [hrequest] at heq
    exact Except.ok.inj heq
  rw [callsOf_of_request hrequest, Transport.takenBytes_of_reply ht hexchange, hmessage]

variable {d : Disk} {localPath remotePath : String}

/-- The calls that the copy of a file to the server makes. -/
def uploadCalls (t : Transport σ) (s : Session σ) (d : Disk) (localPath remotePath : String) :
    List StreamCall :=
  ((s.withCalls []).upload t.recorded d localPath remotePath).2.stream.2

theorem uploadCalls_of_content {data : Bytes} (h : d.content? localPath = some data) :
    s.uploadCalls t d localPath remotePath = s.callsOf t (.file (.write remotePath data)) := by
  rw [uploadCalls, upload, h, callsOf]
  dsimp only
  rcases (s.withCalls []).run t.recorded (.file (.write remotePath data)) with ⟨f | ⟨⟩, s'⟩
  · rfl
  · rfl

theorem upload_of_delivers {data raw : Bytes} {reply : Reply} (h : d.content? localPath = some data)
    (hdelivers : Delivers t s (.file (.write remotePath data)) raw)
    (hparse : Reply.parse raw = .ok reply) :
    (s.upload t d localPath remotePath).1 = .ok data.length := by
  have hrun := run_of_delivers hdelivers
  rw [hparse] at hrun
  rw [upload, h]
  dsimp only
  rcases hresult : s.run t (.file (.write remotePath data)) with ⟨f | ⟨⟩, s'⟩
  · rw [hresult] at hrun
    cases hrun
  · rfl

theorem sends_write (e : Endpoint) (data : Bytes) (h : remotePath ≠ "") :
    Sends e (.file (.write remotePath data)) .files
      [encodeText remotePath, encodeText "WRITE", [], data] := by
  have hnamed : "" ∉ (FileCommand.write remotePath data).requiredTexts := by
    simpa [FileCommand.requiredTexts] using h.symm
  exact sends_of_request e (FileCommand.request_eq_of_notMem hnamed)

theorem run_read (path : String) :
    (s.run t (.file (.read path))).1 =
      (replyTo t s.endpoint (Command.file (.read path)).request s.stream).1.bind fun reply =>
        FieldError.lift reply.fileContent := by
  have hsettle (outcome : Except Failure FileContent) :
      Command.settle (.file (.read path)) outcome = outcome := by
    cases outcome <;> rfl
  rw [run_eq]
  exact hsettle _

theorem run_read_of_delivers {data modified permission raw rest : Bytes} {reply : Reply}
    (hdelivers : Delivers t s (.file (.read remotePath)) raw) (hparse : Reply.parse raw = .ok reply)
    (hcount : reply.count = 3)
    (hfields : (bytes.repeated 3).run reply.body = .ok ([data, modified, permission], rest)) :
    (s.run t (.file (.read remotePath))).1 =
      .ok (⟨data, Text.lossy modified, Text.lossy permission⟩ : FileContent) := by
  rw [run_read, replyTo_of_delivers hdelivers, hparse]
  simp only [Except.bind, Reply.fileContent_of_fields hcount hfields]
  rfl

/-- The reasons for which a file of the server cannot be read. -/
inductive ReadFails (t : Transport σ) (s : Session σ) (path : String) : Failure → Prop
  | unnamed (h : path = "") : ReadFails t s path (.missingParameter "pathname")
  | interrupted {request : Request} {e : TransportError}
      (hrequest : (Command.file (.read path)).request = .ok request)
      (h : (t.exchange s.endpoint.host s.endpoint.port (messageOf s.endpoint request) s.stream).1 =
        .error e) : ReadFails t s path (.transport e)
  /-- The server refuses, or what it sends is no reply. -/
  | refused {raw : Bytes} {f : Failure} (h : Delivers t s (.file (.read path)) raw)
      (hparse : Reply.parse raw = .error f) : ReadFails t s path f
  | malformed {raw : Bytes} {reply : Reply} {e : FieldError}
      (h : Delivers t s (.file (.read path)) raw) (hparse : Reply.parse raw = .ok reply)
      (hcontent : reply.fileContent = .error e) : ReadFails t s path (.field e)

theorem request_read_eq_error_iff {path : String} {f : Failure} :
    (Command.file (.read path)).request = .error f ↔
      path = "" ∧ f = .missingParameter "pathname" := by
  by_cases hpath : path = ""
  · have hrequest : (Command.file (.read path)).request =
        .error (.missingParameter "pathname") := by
      rw [hpath]
      rfl
    rw [hrequest, Except.error.injEq]
    exact ⟨fun h => ⟨hpath, h.symm⟩, fun h => h.2.symm⟩
  · have hnamed : "" ∉ (FileCommand.read path).requiredTexts := by
      simpa [FileCommand.requiredTexts] using Ne.symm hpath
    rw [Command.request, FileCommand.request_eq_of_notMem hnamed]
    constructor
    · intro h
      cases h
    · intro h
      exact absurd h.1 hpath

theorem run_read_eq_error_iff {path : String} {f : Failure} :
    (s.run t (.file (.read path))).1 = .error f ↔ ReadFails t s path f := by
  rw [run_read]
  constructor
  · intro h
    rcases replyTo_cases t s (.file (.read path)) with
      ⟨g, hrequest, hreply⟩ | ⟨request, e, hrequest, hexchange, hreply⟩ | ⟨raw, hdelivers, hreply⟩
    · rw [hreply] at h
      cases h
      obtain ⟨hpath, rfl⟩ := request_read_eq_error_iff.1 hrequest
      exact .unnamed hpath
    · rw [hreply] at h
      cases h
      exact .interrupted hrequest hexchange
    · rw [hreply] at h
      cases hparse : Reply.parse raw with
      | error g =>
        rw [hparse] at h
        cases h
        exact .refused hdelivers hparse
      | ok reply =>
        cases hcontent : reply.fileContent with
        | error e =>
          simp only [hparse, Except.bind, hcontent] at h
          cases h
          exact .malformed hdelivers hparse hcontent
        | ok content =>
          simp only [hparse, Except.bind, hcontent] at h
          cases h
  · intro h
    cases h with
    | unnamed hpath =>
      rw [request_read_eq_error_iff.2 ⟨hpath, rfl⟩]
      rfl
    | interrupted hrequest hexchange =>
      rw [replyTo_of_interruption hrequest hexchange]
      rfl
    | refused hdelivers hparse =>
      rw [replyTo_of_delivers hdelivers, hparse]
      rfl
    | malformed hdelivers hparse hcontent =>
      rw [replyTo_of_delivers hdelivers, hparse]
      simp only [Except.bind, hcontent]
      rfl

theorem download_of_content {content : FileContent}
    (h : (s.run t (.file (.read remotePath))).1 = .ok content)
    (hwritable : d.writable localPath = true) :
    (s.download t d remotePath localPath).1 = .ok content.data.length ∧
      (s.download t d remotePath localPath).2.1 = d.put localPath content.data := by
  rw [download]
  rcases hresult : s.run t (.file (.read remotePath)) with ⟨f | found, s'⟩
  · rw [hresult] at h
    cases h
  · rw [hresult] at h
    cases h
    simp only [hwritable, if_true, and_self]

theorem download_of_failure {f : Failure} (h : (s.run t (.file (.read remotePath))).1 = .error f) :
    (s.download t d remotePath localPath).1 = .error (.command f) ∧
      (s.download t d remotePath localPath).2.1 = d := by
  rw [download]
  rcases hresult : s.run t (.file (.read remotePath)) with ⟨found | content, s'⟩
  · rw [hresult] at h
    cases h
    exact ⟨rfl, rfl⟩
  · rw [hresult] at h
    cases h

/-- Copies keep every byte, and a failure leaves the disk alone. A file of the disk is sent as it
is, in the calls of the command that writes it; the copy succeeds with any reply, and then all of
the message has been taken. What the server says of its file, in three fields, becomes the file on
the disk and changes no other. If the server's file cannot be read, for one of the reasons that
there are, that is the outcome and the disk is as it was; if the disk's file cannot be, nothing is
sent. -/
theorem transfer_keeps_bytes (ht : t.IsTruthful) (s : Session σ) (d : Disk)
    (localPath remotePath : String) :
    (∀ data, d.content? localPath = some data → remotePath ≠ "" →
      Sends s.endpoint (.file (.write remotePath data)) .files
        [encodeText remotePath, encodeText "WRITE", [], data] ∧
      s.uploadCalls t d localPath remotePath = s.callsOf t (.file (.write remotePath data)) ∧
      ∀ raw reply, Delivers t s (.file (.write remotePath data)) raw →
        Reply.parse raw = .ok reply →
        (s.upload t d localPath remotePath).1 = .ok data.length ∧
        ∀ message, Gives s.endpoint (.file (.write remotePath data)) message →
          takenBytes (s.uploadCalls t d localPath remotePath) = message) ∧
    (∀ raw reply data modified permission rest, Delivers t s (.file (.read remotePath)) raw →
      Reply.parse raw = .ok reply → reply.count = 3 →
      (bytes.repeated 3).run reply.body = .ok ([data, modified, permission], rest) →
      d.writable localPath = true →
      (s.download t d remotePath localPath).1 = .ok data.length ∧
      (s.download t d remotePath localPath).2.1.content? localPath = some data ∧
      ∀ path, path ≠ localPath →
        (s.download t d remotePath localPath).2.1.content? path = d.content? path) ∧
    (∀ f, ((s.run t (.file (.read remotePath))).1 = .error f ↔ ReadFails t s remotePath f) ∧
      (ReadFails t s remotePath f →
        (s.download t d remotePath localPath).1 = .error (.command f) ∧
        (s.download t d remotePath localPath).2.1 = d)) ∧
    (d.content? localPath = none →
      (s.upload t d localPath remotePath).1 = .error .notFound ∧
      s.uploadCalls t d localPath remotePath = []) := by
  refine ⟨?uploaded, ?downloaded, fun f => ⟨run_read_eq_error_iff, fun hfails => ?unread⟩, ?absent⟩
  case uploaded =>
    intro data hdata hremote
    have hcalls : s.uploadCalls t d localPath remotePath =
        s.callsOf t (.file (.write remotePath data)) := uploadCalls_of_content hdata
    refine ⟨sends_write s.endpoint data hremote, hcalls, fun raw reply hdelivers hparse => ?_⟩
    refine ⟨upload_of_delivers hdata hdelivers hparse, fun message hgives => ?_⟩
    rw [hcalls, takenBytes_of_delivers ht hdelivers hgives]
  case downloaded =>
    intro raw reply data modified permission rest hdelivers hparse hcount hfields hwritable
    have hread := run_read_of_delivers hdelivers hparse hcount hfields
    obtain ⟨houtcome, hdisk⟩ := download_of_content (d := d) hread hwritable
    rw [hdisk]
    exact ⟨houtcome, d.content?_put_self localPath data, fun path => d.content?_put_ne data⟩
  case unread => exact download_of_failure (run_read_eq_error_iff.2 hfails)
  case absent =>
    intro hnone
    have hrecorded := upload_absent t.recorded (s.withCalls []) hnone remotePath
    rw [upload_absent t s hnone remotePath, uploadCalls, hrecorded]
    exact ⟨rfl, rfl⟩

/-- Content that imitates a field and the end of a head goes there and back; a file without a name
does not, and neither does a file that is not there. -/
theorem transfer_keeps_bytes_of_imitations :
    let data : Bytes := [0, 255, 58, 13, 10, 13, 10]
    let d : Disk := ⟨fun path => if path = "/a" then some data else none, fun _ => true⟩
    let e : Endpoint := ⟨"cf.local", 8500, "admin", "", by decide, by decide⟩
    let head := encodeText "HTTP/1.0 200 OK"
    let accepted := Reply.written head []
    let served := Reply.written head [data, encodeText "0", []]
    let writing : Session Stage := ⟨e, { scripts := [{ reply := accepted }] }, none⟩
    let reading : Session Stage := ⟨e, { scripts := [{ reply := served }] }, none⟩
    Transport.scripted.IsTruthful ∧ d.content? "/a" = some data ∧
      Delivers .scripted writing (.file (.write "/x" data)) accepted ∧
      Delivers .scripted reading (.file (.read "/x")) served ∧
      (writing.upload .scripted d "/a" "/x").1 = .ok 7 ∧
      (reading.download .scripted d "/x" "/b").1 = .ok 7 ∧
      (reading.download .scripted d "/x" "/b").2.1.content? "/b" = some data ∧
      (reading.download .scripted d "" "/a").1 =
        .error (.command (.missingParameter "pathname")) ∧
      (reading.download .scripted d "" "/a").2.1 = d ∧
      (writing.upload .scripted d "/b" "/x").1 = .error .notFound ∧
      writing.uploadCalls .scripted d "/b" "/x" = [] := by
  intro data d e head accepted served writing reading
  have ht := Transport.isTruthful_scripted
  have hcontent : d.content? "/a" = some data := rfl
  have hwrites : Delivers .scripted writing (.file (.write "/x" data)) accepted :=
    delivers_scripted (c := .file (.write "/x" data)) rfl rfl
  have hreads : Delivers .scripted reading (.file (.read "/x")) served :=
    delivers_scripted (c := .file (.read "/x")) rfl rfl
  have hstatus : ∃ line ∈ Reply.statusLines, line <+: head := by decide
  have hhead : ¬ Reply.headEnd <:+: head := by decide
  have haccepted := @Reply.parse_written head [] hstatus hhead (by decide)
  have hserved := @Reply.parse_written head [data, encodeText "0", []] hstatus hhead (by decide)
  have hfields := @Reply.repeated_bytes_ofFields [data, encodeText "0", []] (by decide)
  have huploaded := ((transfer_keeps_bytes ht writing d "/a" "/x").1 data hcontent (by decide)).2.2
    accepted _ hwrites haccepted
  have hdownloaded := (transfer_keeps_bytes ht reading d "/b" "/x").2.1 served _ data _ _ _ hreads
    hserved rfl hfields rfl
  have hfailed := ((transfer_keeps_bytes ht reading d "/a" "").2.2.1
    (.missingParameter "pathname")).2 (.unnamed rfl)
  have habsent := (transfer_keeps_bytes ht writing d "/b" "/x").2.2.2 (by simp [d])
  exact ⟨ht, hcontent, hwrites, hreads, huploaded.1, hdownloaded.1, hdownloaded.2.1, hfailed.1,
    hfailed.2, habsent.1, habsent.2⟩

end Session
end RemoteDev
