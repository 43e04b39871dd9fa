import RemoteDev.Command.Basic

/-! Failures that answer a command. The one that says that nothing is at a path answers a probe of
that path, and no other failure answers any command. -/
namespace RemoteDev

namespace FileCommand

def TellsAbsence (code : Int) (message : String) : Prop :=
  code = -1 ∧ absence.toList <+: message.toList

theorem saysAbsent_iff {f : Failure} :
    saysAbsent f = true ↔ ∃ code message, f = .server code message ∧ TellsAbsence code message := by
  constructor
  · intro h
    unfold saysAbsent at h
    split at h
    case h_1 message => exact ⟨-1, message, rfl, rfl, List.isPrefixOf_iff_prefix.1 h⟩
    case h_2 => cases h
  · rintro ⟨code, message, rfl, rfl, hbegins⟩
    exact List.isPrefixOf_iff_prefix.2 hbegins

end FileCommand

namespace Command

open FileCommand

theorem settle_of_some {c : Command} {f : Failure} {x : c.Result} (h : c.answerOf? f = some x) :
    c.settle (.error f) = .ok x := by
  simp only [settle, h]

theorem settle_of_none {c : Command} {f : Failure} (h : c.answerOf? f = none) :
    c.settle (.error f) = .error f := by
  simp only [settle, h]

/-- No failure answers a command, save that a probe may be told that nothing is at its path. -/
theorem answerOf?_eq_none {c : Command} {f : Failure}
    (h : ∀ path, c = .file (.probe path) → ¬ saysAbsent f = true) : c.answerOf? f = none := by
  cases c with
  | file c =>
    cases c with
    | probe path => exact if_neg (h path rfl)
    | _ => rfl
  | _ => rfl

theorem answerOf?_probe {path : String} {f : Failure} (h : saysAbsent f = true) :
    answerOf? (.file (.probe path)) f = some false := if_pos h

theorem settle_server {c : Command} {code : Int} {message : String}
    (h : ∀ path, c = .file (.probe path) → ¬ TellsAbsence code message) :
    c.settle (.error (.server code message)) = .error (.server code message) := by
  refine settle_of_none (answerOf?_eq_none fun path hc => ?_)
  rw [saysAbsent_iff]
  rintro ⟨_, _, heq, htells⟩
  cases heq
  exact h path hc htells

variable {path : String}

theorem settle_probe_error_iff {f : Failure} {answer : Bool} :
    settle (.file (.probe path)) (.error f) = .ok answer ↔
      answer = false ∧ saysAbsent f = true := by
  by_cases hsays : saysAbsent f = true
  · rw [settle_of_some (answerOf?_probe hsays)]
    constructor
    · exact fun h => ⟨(Except.ok.inj h).symm, hsays⟩
    · rintro ⟨rfl, -⟩
      rfl
  · rw [settle_of_none (answerOf?_eq_none fun _ _ => hsays)]
    exact iff_of_false nofun fun h => hsays h.2

theorem settle_probe_eq_true_iff {reply : Except Failure Reply} :
    settle (.file (.probe path)) (reply.bind (decode (.file (.probe path)))) = .ok true ↔
      ∃ r, reply = .ok r := by
  cases reply with
  | ok r => exact iff_of_true rfl ⟨r, rfl⟩
  | error f => exact iff_of_false (fun h => nomatch (settle_probe_error_iff.1 h).1) nofun

theorem settle_probe_eq_false_iff {reply : Except Failure Reply} :
    settle (.file (.probe path)) (reply.bind (decode (.file (.probe path)))) = .ok false ↔
      ∃ code message, reply = .error (.server code message) ∧ TellsAbsence code message := by
  cases reply with
  | ok r => exact iff_of_false (fun h => Bool.false_ne_true (Except.ok.inj h).symm) nofun
  | error f =>
    have hsettled : settle (.file (.probe path)) (.error f) = .ok false ↔ saysAbsent f = true :=
      settle_probe_error_iff.trans (and_iff_right rfl)
    refine hsettled.trans (saysAbsent_iff.trans ?_)
    simp only [Except.error.injEq]

end Command

end RemoteDev
