import RemoteDev.Proofs.Command.Form
import RemoteDev.Proofs.Session.Calls
import RemoteDev.Proofs.Wire.Message

/-! The messages of commands that are sent in their form. A message carries the form of its command
and the credentials of the session, and it belongs to no other command, save that two mappings may
share their argument and so their message. -/
namespace RemoteDev

theorem Password.obfuscate_eq_empty_iff (password : String) :
    obfuscate password = "" ↔ password = "" := by
  constructor
  · intro h
    have hmasked : (mask 0 (encodeText password)).flatMap hexPair = [] := by
      rw [obfuscate] at h
      simpa using h
    cases hbytes : encodeText password with
    | nil => exact Text.encodeText_inj.1 hbytes
    | cons b r =>
      rw [hbytes] at hmasked
      simp [mask, hexPair] at hmasked
  · rintro rfl
    rfl

namespace Session

/-- A command gives a message to its stream: it is sent, and whatever the stream does, all writing
is of this message. -/
structure Gives (e : Endpoint) (c : Command) (message : Bytes) : Prop where
  message_eq : c.request.map (messageOf e) = .ok message
  isConnection {σ : Type} {t : Transport σ} (ht : t.IsTruthful) (s : Session σ)
    (hs : s.endpoint = e) : IsConnection e message (s.callsOf t c)

theorem gives_of_request (e : Endpoint) {c : Command} {request : Request}
    (h : c.request = .ok request) : Gives e c (messageOf e request) where
  message_eq := by
    rw [h]
    rfl
  isConnection {σ t} ht s hs := by
    subst hs
    obtain ⟨made, hrun, hmade⟩ := run_recorded ht s c []
    have hcalls : s.callsOf t c = made := by
      rw [callsOf, hrun]
      rfl
    rw [h] at hmade
    rw [hcalls]
    exact hmade

theorem messageOf_eq (e : Endpoint) (request : Request) :
    let payload := (request.encode e.username e.maskedPassword).bytes
    messageOf e request = encodeText (request.head e.host e.port payload.length) ++ payload := by
  intro payload
  rw [messageOf, Request.frame, Buffer.bytes_append, Buffer.bytes_append, Buffer.bytes_empty,
    List.nil_append]

theorem credentials_eq (e : Endpoint) :
    Request.credentials e.username e.maskedPassword =
      (if e.username = "" then [] else [encodeText e.username]) ++
        (if e.password = "" then [] else [encodeText e.maskedPassword]) := by
  have hmasked : e.maskedPassword = "" ↔ e.password = "" :=
    Password.obfuscate_eq_empty_iff e.password
  simp only [Request.credentials_eq, Request.credentialField, hmasked]

/-- A command sends fields in its family. Its message is a head and a payload, and a payload that a
signed word can count carries the fields and then the credentials that are not empty. -/
def Sends (e : Endpoint) (c : Command) (family : Family) (fields : List Bytes) : Prop :=
  ∃ payload,
    Gives e c
      (encodeText ((Request.ofFamily family fields).head e.host e.port payload.length) ++ payload) ∧
    (payload.length < 2 ^ 63 → Request.Carries payload (fields ++
      ((if e.username = "" then [] else [encodeText e.username]) ++
        (if e.password = "" then [] else [encodeText e.maskedPassword]))))

theorem sends_of_request (e : Endpoint) {c : Command} {family : Family} {fields : List Bytes}
    (h : c.request = .ok (.ofFamily family fields)) : Sends e c family fields := by
  refine ⟨((Request.ofFamily family fields).encode e.username e.maskedPassword).bytes, ?_, ?_⟩
  · have hgives := gives_of_request e h
    rwa [messageOf_eq] at hgives
  · rw [← credentials_eq]
    exact Request.carries_encode _ e.username e.maskedPassword

/-- A command that lacks no parameter gives a message to a host of one line that ends its head at
the first empty line, names the family of the command, announces the length of what follows, and
carries there the arguments of the command and then the credentials that are not empty. -/
theorem gives_form (e : Endpoint) {c : Command} {family : Family} {arguments : List Bytes}
    (hform : c.form? = some (family, arguments)) (hvalid : ¬ c.LacksParameter)
    (hhost : ∀ b ∈ e.host.toList, b ≠ '\r' ∧ b ≠ '\n')
    (hsize : ((Request.ofFamily family arguments).encode e.username e.maskedPassword).length <
      2 ^ 63) :
    ∃ message head payload,
      Gives e c message ∧
      splitAtFirst Reply.headEnd message = some (head, payload) ∧
      Request.Heads family payload head ∧
      Request.Carries payload (arguments ++
        ((if e.username = "" then [] else [encodeText e.username]) ++
          (if e.password = "" then [] else [encodeText e.maskedPassword]))) := by
  have hgives := gives_of_request e (Command.request_of_form hform hvalid)
  have hline : Request.isOneLine e.host = true := by
    simpa [Request.isOneLine] using hhost
  obtain ⟨head, hsplit, hheads⟩ := Request.splitAtFirst_frame family arguments hline e.port
    ((Request.ofFamily family arguments).encode e.username e.maskedPassword).bytes
  have hcarries := Request.carries_encode _ e.username e.maskedPassword hsize
  rw [credentials_eq] at hcarries
  exact ⟨_, head, _, hgives, hsplit, hheads, hcarries⟩

/-- Content that imitates the end of a head and a field, to a host with a port of its own. -/
theorem gives_form_of_imitations :
    let e : Endpoint := ⟨"cf.local", 8500, "admin", "", by decide, by decide⟩
    let data : Bytes := [13, 10, 13, 10] ++ encodeText "STR:1::"
    let arguments := [encodeText "/tmp/a:b", encodeText "WRITE", [], data]
    let c : Command := .file (.write "/tmp/a:b" data)
    c.form? = some (.files, arguments) ∧ ¬ c.LacksParameter ∧
      (∀ b ∈ e.host.toList, b ≠ '\r' ∧ b ≠ '\n') ∧
      ((Request.ofFamily .files arguments).encode e.username e.maskedPassword).length < 2 ^ 63 ∧
      ∃ message head payload, Gives e c message ∧
        splitAtFirst Reply.headEnd message = some (head, payload) ∧
        Request.Heads .files payload head ∧
        Request.Carries payload (arguments ++ [encodeText "admin"]) := by
  intro e data arguments c
  have hform : c.form? = some (.files, arguments) := rfl
  have hvalid : ¬ c.LacksParameter := by
    simp [c, Command.LacksParameter, Command.requiredTexts, FileCommand.requiredTexts]
  have hhost : ∀ b ∈ e.host.toList, b ≠ '\r' ∧ b ≠ '\n' := by simp [e]
  have hsize : ((Request.ofFamily .files arguments).encode e.username e.maskedPassword).length <
      2 ^ 63 := by decide
  exact ⟨hform, hvalid, hhost, hsize, gives_form e hform hvalid hhost hsize⟩

theorem form_inj_of_messageOf {e : Endpoint} {family family' : Family}
    {arguments arguments' : List Bytes}
    (h : messageOf e (.ofFamily family arguments) = messageOf e (.ofFamily family' arguments')) :
    family = family' ∧ arguments = arguments' := by
  obtain ⟨hfamily, hpayload⟩ := Request.frame_inj h
  exact ⟨hfamily, Request.arguments_inj_of_encode hpayload⟩

/-- On one connection two commands that lack no parameter give the same message exactly if they
are the same command, or mappings that share their argument. If what stands between the name and the
path of a mapping is not part of a name, the message tells all commands and their parameters. -/
theorem gives_same_iff (e : Endpoint) {c c' : Command} (hform : c.form?.isSome)
    (hform' : c'.form?.isSome) (hvalid : ¬ c.LacksParameter) (hvalid' : ¬ c'.LacksParameter) :
    ∃ message message', Gives e c message ∧ Gives e c' message' ∧
      (message = message' ↔ c = c' ∨ c.SharesMapping c') ∧
      (c.NameStandsApart → c'.NameStandsApart → message = message' → c = c') := by
  obtain ⟨⟨family, arguments⟩, hform⟩ := Option.isSome_iff_exists.1 hform
  obtain ⟨⟨family', arguments'⟩, hform'⟩ := Option.isSome_iff_exists.1 hform'
  have hgives := gives_of_request e (Command.request_of_form hform hvalid)
  have hgives' := gives_of_request e (Command.request_of_form hform' hvalid')
  have hsame : messageOf e (.ofFamily family arguments) =
      messageOf e (.ofFamily family' arguments') ↔ c = c' ∨ c.SharesMapping c' := by
    rw [← Command.form?_eq_some_iff hform, hform']
    constructor
    · intro h
      obtain ⟨hfamily, harguments⟩ := form_inj_of_messageOf h
      rw [hfamily, harguments]
    · intro h
      cases h
      rfl
  refine ⟨_, _, hgives, hgives', hsame, ?_⟩
  intro happart happart' h
  rcases hsame.1 h with heq | hshared
  · exact heq
  · exact Command.eq_of_sharesMapping hshared happart happart'

/-- Two mappings with the separator in a path, and a name that ends in the beginning of it. -/
theorem gives_same_iff_of_separator_in_path :
    let e : Endpoint := ⟨"cf.local", 80, "", "", by decide, by decide⟩
    let c : Command := .admin (.setMapping "a;path" "b")
    let c' : Command := .admin (.setMapping "a" "path;path:b")
    c.form?.isSome ∧ c'.form?.isSome ∧ ¬ c.LacksParameter ∧ ¬ c'.LacksParameter ∧
      c.NameStandsApart ∧ c'.NameStandsApart ∧
      ∃ message message', Gives e c message ∧ Gives e c' message' ∧ message ≠ message' := by
  intro e c c'
  have hvalid : ¬ c.LacksParameter := by
    simp [c, Command.LacksParameter, Command.requiredTexts, AdminCommand.requiredTexts]
  have hvalid' : ¬ c'.LacksParameter := by
    simp [c', Command.LacksParameter, Command.requiredTexts, AdminCommand.requiredTexts]
  have happart : c.NameStandsApart := Command.nameStandsApart_setMapping (by decide)
  have happart' : c'.NameStandsApart := Command.nameStandsApart_setMapping (by decide)
  have hne : c ≠ c' := by simp [c, c']
  obtain ⟨message, message', hgives, hgives', -, hsame⟩ := gives_same_iff e rfl rfl hvalid hvalid'
  exact ⟨rfl, rfl, hvalid, hvalid', happart, happart', message, message', hgives, hgives',
    fun h => hne (hsame happart happart' h)⟩

/-- Two mappings of different names and paths that give the same message. -/
theorem gives_same_of_separator_in_name :
    let e : Endpoint := ⟨"cf.local", 8500, "", "", by decide, by decide⟩
    let c : Command := .admin (.setMapping "a;path:b" "c")
    let c' : Command := .admin (.setMapping "a" "b;path:c")
    c ≠ c' ∧ c.form?.isSome ∧ c'.form?.isSome ∧ ¬ c.LacksParameter ∧ ¬ c'.LacksParameter ∧
      ∃ message, Gives e c message ∧ Gives e c' message := by
  intro e c c'
  have hvalid : ¬ c.LacksParameter := by
    simp [c, Command.LacksParameter, Command.requiredTexts, AdminCommand.requiredTexts]
  have hvalid' : ¬ c'.LacksParameter := by
    simp [c', Command.LacksParameter, Command.requiredTexts, AdminCommand.requiredTexts]
  have hshared : c.SharesMapping c' :=
    ⟨_, _, rfl, rfl, "a;path:b", "c", "a", "b;path:c", rfl, rfl, by decide⟩
  have hform := (Command.form?_eq_some_iff (c := c) rfl).2 (.inr hshared)
  have hgives := gives_of_request e (Command.request_of_form (c := c) rfl hvalid)
  have hgives' := gives_of_request e (Command.request_of_form hform hvalid')
  exact ⟨by simp [c, c'], rfl, rfl, hvalid, hvalid', _, hgives, hgives'⟩

end Session
end RemoteDev
