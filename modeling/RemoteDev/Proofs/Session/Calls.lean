import RemoteDev.Proofs.Command.Parameters
import RemoteDev.Proofs.Transport.Pieces
import RemoteDev.Session.Basic

/-! The calls that a command makes on its stream: none if it cannot be sent, and otherwise one
connection, which is closed once if it stands. -/
namespace RemoteDev.Session

variable {σ : Type}

def withCalls (s : Session σ) (calls : List StreamCall) : Session (σ × List StreamCall) :=
  ⟨s.endpoint, (s.stream, calls), s.report⟩

def callsOf (t : Transport σ) (s : Session σ) (c : Command) : List StreamCall :=
  ((s.withCalls []).run t.recorded c).2.stream.2

theorem four_le_length_head (request : Request) (host : String) (port length : Nat) :
    4 ≤ (encodeText (request.head host port length)).length := by
  have hline (before : String) : 4 ≤ (encodeText (before ++ "\r\n\r\n")).length := by
    have hend : (encodeText "\r\n\r\n").length = 4 := by decide
    rw [encodeText_append, List.length_append, hend]
    exact Nat.le_add_left 4 _
  exact hline _

theorem four_le_length_messageOf (e : Endpoint) (request : Request) :
    4 ≤ (messageOf e request).length := by
  have hhead := four_le_length_head request e.host e.port
    (request.encode e.username e.maskedPassword).bytes.length
  rw [messageOf, Request.frame, Buffer.bytes_append, Buffer.bytes_append, List.length_append,
    List.length_append]
  omega

theorem messageOf_ne_nil (e : Endpoint) (request : Request) : messageOf e request ≠ [] := by
  have hlength := four_le_length_messageOf e request
  exact List.ne_nil_of_length_pos (by omega)

def IsConnection (e : Endpoint) (message : Bytes) (calls : List StreamCall) : Prop :=
  (∃ error, calls = [.connect e.host e.port (.error error)]) ∨
    ∃ writes reads, calls = .connect e.host e.port (.ok ()) :: (writes ++ reads ++ [.close]) ∧
      Transport.IsDialogue message writes reads

theorem ne_nil_of_isConnection {e : Endpoint} {message : Bytes} {calls : List StreamCall}
    (h : IsConnection e message calls) : calls ≠ [] := by
  rcases h with ⟨error, rfl⟩ | ⟨writes, reads, rfl, -⟩
  · exact List.cons_ne_nil _ _
  · exact List.cons_ne_nil _ _

theorem ask_recorded {t : Transport σ} (ht : t.IsTruthful) (e : Endpoint) (request : Request)
    (stream : σ) (calls : List StreamCall) :
    ∃ made,
      ask t.recorded e request (stream, calls) =
        ((ask t e request stream).1, (ask t e request stream).2, calls ++ made) ∧
      IsConnection e (messageOf e request) made := by
  obtain ⟨made, hexchange, hmade⟩ := Transport.exchange_recorded ht e.host e.port
    (messageOf_ne_nil e request) stream calls
  refine ⟨made, ?_, hmade⟩
  rw [ask, ask, hexchange]
  rcases t.exchange e.host e.port (messageOf e request) stream with ⟨error | reply, stream'⟩
  · rfl
  · rfl

/-- The calls on behalf of a request: none if there is nothing to send. -/
def CallsFor (e : Endpoint) (request : Except Failure Request) (calls : List StreamCall) : Prop :=
  match request with
  | .error _ => calls = []
  | .ok request => IsConnection e (messageOf e request) calls

theorem replyTo_recorded {t : Transport σ} (ht : t.IsTruthful) (e : Endpoint)
    (request : Except Failure Request) (stream : σ) (calls : List StreamCall) :
    ∃ made,
      replyTo t.recorded e request (stream, calls) =
        ((replyTo t e request stream).1, (replyTo t e request stream).2, calls ++ made) ∧
      CallsFor e request made := by
  cases request with
  | error failure => exact ⟨[], by rw [List.append_nil]; rfl, rfl⟩
  | ok request => exact ask_recorded ht e request stream calls

theorem run_recorded {t : Transport σ} (ht : t.IsTruthful) (s : Session σ) (c : Command)
    (calls : List StreamCall) :
    ∃ made,
      (s.withCalls calls).run t.recorded c =
        ((s.run t c).1, (s.run t c).2.withCalls (calls ++ made)) ∧
      CallsFor s.endpoint c.request made := by
  obtain ⟨made, hreply, hmade⟩ := replyTo_recorded ht s.endpoint c.request s.stream calls
  refine ⟨made, ?_, hmade⟩
  rw [run_eq, run_eq]
  simp only [withCalls, hreply]

theorem callsOf_of_request {t : Transport σ} {s : Session σ} {c : Command} {request : Request}
    (h : c.request = .ok request) :
    s.callsOf t c = (t.recorded.exchange s.endpoint.host s.endpoint.port
      (messageOf s.endpoint request) (s.stream, [])).2.2 := by
  rw [callsOf, run_eq, h, withCalls, replyTo, ask]
  rcases t.recorded.exchange s.endpoint.host s.endpoint.port (messageOf s.endpoint request)
    (s.stream, []) with ⟨error | reply, stream'⟩
  · rfl
  · rfl

/-- A command makes no calls exactly if it lacks a parameter, so that there is nothing to send.
Otherwise it makes one connection: the connection is refused, or it is written to, read from only
once the whole message is out, and closed as the last thing of all. -/
theorem callsOf_eq_nil_or_isConnection {t : Transport σ} (ht : t.IsTruthful) (s : Session σ)
    (c : Command) :
    (s.withCalls []).run t.recorded c = ((s.run t c).1, (s.run t c).2.withCalls (s.callsOf t c)) ∧
      (s.callsOf t c = [] ↔ c.LacksParameter) ∧
      (c.LacksParameter ↔ ∃ failure, c.request = .error failure) ∧
      ∀ request, c.request = .ok request →
        IsConnection s.endpoint (messageOf s.endpoint request) (s.callsOf t c) := by
  obtain ⟨made, hrun, hmade⟩ := run_recorded ht s c []
  have hcalls : s.callsOf t c = made := by
    rw [callsOf, hrun]
    rfl
  rw [hcalls]
  refine ⟨hrun, ?_, c.request_eq_error_iff.symm, ?_⟩
  · rw [← c.request_eq_error_iff]
    cases hrequest : c.request with
    | error failure =>
      rw [hrequest] at hmade
      exact iff_of_true hmade ⟨failure, rfl⟩
    | ok request =>
      rw [hrequest] at hmade
      exact iff_of_false (ne_nil_of_isConnection hmade) nofun
  · intro request hrequest
    rw [hrequest] at hmade
    exact hmade

/-- A peer that refuses the connection: a command for a named file is refused, one for no file
does not get that far. A peer that leaves the last byte of the message to another write, and gives
three bytes with two reads: there is another read for the end, and the connection is closed. -/
theorem callsOf_eq_nil_or_isConnection_of_refusal :
    let e : Endpoint := ⟨"cf.local", 8500, "", "", by decide, by decide⟩
    let named : Command := .file (.read "/x")
    let unnamed : Command := .file (.read "")
    let message := messageOf e (.ofFamily .files [encodeText "/x", encodeText "READ", []])
    let refused : Session Stage :=
      ⟨e, { scripts := [{ connectError := some .notConnected }] }, none⟩
    let served : Session Stage := ⟨e, { scripts := [{
      reply := [1, 2, 3], writeLimit := some (message.length - 1), readLimit := some 2 }] }, none⟩
    Transport.scripted.IsTruthful ∧
      refused.callsOf .scripted named = [.connect "cf.local" 8500 (.error .notConnected)] ∧
      ¬ named.LacksParameter ∧ refused.callsOf .scripted unnamed = [] ∧ unnamed.LacksParameter ∧
      served.callsOf .scripted named = [.connect "cf.local" 8500 (.ok ()),
        .write message (.ok (message.length - 1)),
        .write (message.drop (message.length - 1)) (.ok 1),
        .read 4096 (.ok 2), .read 4096 (.ok 1), .read 4096 (.ok 0), .close] ∧
      IsConnection e message (served.callsOf .scripted named) := by
  intro e named unnamed message refused served
  have htruthful := Transport.isTruthful_scripted
  have hnamed := (callsOf_eq_nil_or_isConnection htruthful refused named).2.1
  have hunnamed := (callsOf_eq_nil_or_isConnection htruthful refused unnamed).2.1
  have hserved := (callsOf_eq_nil_or_isConnection htruthful served named).2.2.2 _ rfl
  have hlength : 2 ≤ message.length := Nat.le_trans (by decide) (four_le_length_messageOf e _)
  have hcalls : served.callsOf .scripted named = _ := callsOf_of_request rfl
  exact ⟨htruthful, rfl, fun hlacks => (nomatch hnamed.2 hlacks), rfl, hunnamed.1 rfl,
    hcalls.trans (Transport.calls_scripted_of_two_writes hlength), hserved⟩

end RemoteDev.Session
