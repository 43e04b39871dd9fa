import RemoteDev.Proofs.Field.Plan

/-! What comes of all that a plan asks for. The first field that is refused is the last to be asked
for, and no more fields are taken than half as many as there are bytes, since each has a length and
a colon in front. -/
namespace RemoteDev

open FieldReader

namespace FieldReader

variable {data rest field : Bytes} {n : Int}

theorem length_of_number (h : number.run data = .ok (n, rest)) : rest.length + 2 ≤ data.length := by
  obtain ⟨_, @⟨digits, _, hcolon, hn⟩, rfl⟩ := number_eq_ok_iff.1 h
  cases digits with
  | nil => exact absurd hn not_shows_nil
  | cons b r =>
    simp only [List.length_append, List.length_cons, List.length_nil]
    omega

theorem length_dropTag_le (data : Bytes) : (dropTag data).length ≤ data.length := by
  rw [dropTag]
  split
  · exact (List.drop_suffix _ _).length_le
  · exact Nat.le_refl _

theorem length_of_bytes (h : bytes.run data = .ok (field, rest)) :
    field.length + rest.length + 2 ≤ data.length := by
  have hlength := length_of_number (bytes_eq_ok.1 h)
  rw [List.length_append] at hlength
  exact Nat.le_trans hlength (length_dropTag_le data)

end FieldReader

namespace Plan

variable {α β : Type}

/-- What comes of asking for fields: each is taken, or there is a reason why it is not. -/
abbrev Log := List (Except FieldError Bytes)

def asked (data : Bytes) (behind : Bytes → Bytes → Log) : Log :=
  match bytes.run data with
  | .error e => [.error e]
  | .ok (content, rest) => .ok content :: behind content rest

def opened (content : Bytes) (inner : Int → Bytes → Log) : Log :=
  match number.run content with
  | .error _ => []
  | .ok (count, rest) => inner count rest

/-- What comes of all that a plan asks for, in this order. The fields in a record stand behind the
record itself. -/
def log {α : Type} : Plan α → Bytes → Log
  | done _, _ => []
  | fail _, _ => []
  | field next, data => asked data fun content rest => (next content).log rest
  | record inner next, data => asked data fun content rest =>
    opened content (fun count within => (inner count).log within) ++
      match inside inner content with
      | .error _ => []
      | .ok x => (next x).log rest

section Asked

variable {data content rest : Bytes} {e : FieldError}

theorem asked_of_ok {after : Bytes → Bytes → Log} (h : bytes.run data = .ok (content, rest)) :
    asked data after = .ok content :: after content rest := by
  rw [asked, h]

theorem asked_of_error {after : Bytes → Bytes → Log} (h : bytes.run data = .error e) :
    asked data after = [.error e] := by
  rw [asked, h]

end Asked

section Refusal

variable {first second : Log} {outcome : Except FieldError α} {e : FieldError}

/-- Nothing is asked for behind a field that is refused, and nothing comes of the whole but the
refusal. -/
def EndsAtRefusal (log : Log) (outcome : Except FieldError α) : Prop :=
  ∀ before e after, log = before ++ .error e :: after → after = [] ∧ outcome = .error e

theorem endsAtRefusal_nil (outcome : Except FieldError α) : EndsAtRefusal [] outcome := by
  intro before e after h
  cases before <;> cases h

theorem endsAtRefusal_error (e : FieldError) :
    EndsAtRefusal [.error e] (.error e : Except FieldError α) := by
  intro before e' after h
  cases before with
  | nil =>
    cases h
    exact ⟨rfl, rfl⟩
  | cons b before =>
    obtain ⟨-, hnil⟩ := List.cons_eq_cons.1 h
    exact absurd hnil.symm (by simp)

theorem EndsAtRefusal.mono {passed : Except FieldError β} (h : EndsAtRefusal first outcome)
    (hpassed : ∀ e, outcome = .error e → passed = .error e) : EndsAtRefusal first passed := by
  intro before e after heq
  obtain ⟨hafter, houtcome⟩ := h before e after heq
  exact ⟨hafter, hpassed e houtcome⟩

theorem EndsAtRefusal.append {part : Except FieldError β} (hfirst : EndsAtRefusal first part)
    (hsecond : EndsAtRefusal second outcome)
    (hpart : ∀ e, part = .error e → second = [] ∧ outcome = .error e) :
    EndsAtRefusal (first ++ second) outcome := by
  intro before e after heq
  rcases List.append_eq_append_iff.1 heq with ⟨late, rfl, hlate⟩ | ⟨early, hearly, hrest⟩
  · exact hsecond late e after hlate
  · cases early with
    | nil => exact hsecond [] e after hrest.symm
    | cons refused between =>
      obtain ⟨rfl, rfl⟩ := List.cons_eq_cons.1 hrest
      obtain ⟨rfl, herror⟩ := hfirst before e between hearly
      exact hpart e herror

theorem EndsAtRefusal.cons (content : Bytes) (h : EndsAtRefusal second outcome) :
    EndsAtRefusal (.ok content :: second) outcome := by
  intro before e after heq
  cases before with
  | nil => cases heq
  | cons b before => exact h before e after (List.cons_eq_cons.1 heq).2

theorem endsAtRefusal_log (plan : Plan α) (data : Bytes) :
    EndsAtRefusal (plan.log data) (plan.reader.run data) := by
  induction plan generalizing data with
  | done a => exact endsAtRefusal_nil _
  | fail e => exact endsAtRefusal_nil _
  | field next ih =>
    cases hfield : bytes.run data with
    | error e =>
      rw [log, asked_of_error hfield, reader, run_bind_of_error hfield]
      exact endsAtRefusal_error e
    | ok p =>
      rw [log, asked_of_ok hfield, reader, run_bind_of_ok hfield]
      exact (ih p.1 p.2).cons p.1
  | record inner next ihInner ih =>
    cases hfield : bytes.run data with
    | error e =>
      rw [log, asked_of_error hfield, reader, run_bind_of_error hfield]
      exact endsAtRefusal_error e
    | ok p =>
      obtain ⟨content, rest⟩ := p
      rw [log, asked_of_ok hfield, run_record_of_ok hfield]
      have hopened : EndsAtRefusal (opened content fun count within => (inner count).log within)
          (inside inner content) := by
        rw [opened]
        cases hcount : number.run content with
        | error e => exact endsAtRefusal_nil _
        | ok q => exact (ihInner q.1 q.2).mono fun e => inside_of_error hcount
      refine EndsAtRefusal.cons content (hopened.append ?_ ?_)
      · cases inside inner content with
        | error e => exact endsAtRefusal_nil _
        | ok x => exact ih x rest
      · intro e herror
        rw [herror]
        exact ⟨rfl, rfl⟩

end Refusal

section Bound

/-- How many fields have been taken. -/
def Log.taken (log : Log) : Nat := log.countP Except.isOk

def unread : Except FieldError (α × Bytes) → Nat
  | .ok (_, rest) => rest.length
  | .error _ => 0

theorem taken_cons (content : Bytes) (log : Log) :
    Log.taken (.ok content :: log) = log.taken + 1 :=
  List.countP_cons_of_pos rfl

theorem taken_append (first second : Log) :
    Log.taken (first ++ second) = first.taken + second.taken :=
  List.countP_append

/-- Every field that is taken has two bytes at least for itself, and those of a record stand in it
behind a count that has two as well. -/
theorem two_mul_taken_le (plan : Plan α) (data : Bytes) :
    2 * (plan.log data).taken + unread (plan.reader.run data) ≤ data.length := by
  induction plan generalizing data with
  | done a => exact Nat.le_of_eq (Nat.zero_add _)
  | fail e => exact Nat.zero_le _
  | field next ih =>
    cases hfield : bytes.run data with
    | error e =>
      rw [log, asked_of_error hfield, reader, run_bind_of_error hfield]
      exact Nat.zero_le _
    | ok p =>
      obtain ⟨content, rest⟩ := p
      have hlength := length_of_bytes hfield
      have hbehind := ih content rest
      rw [log, asked_of_ok hfield, taken_cons, reader, run_bind_of_ok hfield]
      omega
  | record inner next ihInner ih =>
    cases hfield : bytes.run data with
    | error e =>
      rw [log, asked_of_error hfield, reader, run_bind_of_error hfield]
      exact Nat.zero_le _
    | ok p =>
      obtain ⟨content, rest⟩ := p
      have hlength := length_of_bytes hfield
      have hopened : 2 * (opened content fun count within => (inner count).log within).taken ≤
          content.length := by
        rw [opened]
        cases hcount : number.run content with
        | error e => exact Nat.zero_le _
        | ok q =>
          have hnumber := length_of_number hcount
          have hwithin := ihInner q.1 q.2
          dsimp only
          omega
      rw [log, asked_of_ok hfield, taken_cons, run_record_of_ok hfield, taken_append]
      cases inside inner content with
      | error e =>
        show 2 * (_ + 0 + 1) + 0 ≤ _
        omega
      | ok x =>
        have hbehind := ih x rest
        rw [ok_bind]
        dsimp only
        omega

end Bound

end Plan
end RemoteDev
