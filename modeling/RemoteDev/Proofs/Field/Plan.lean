import RemoteDev.Proofs.Field.Exact

/-! Readers as plans. A plan asks for one field after the other and goes on with what a field holds;
it may also ask for a record, which is a field that a plan of its own reads to the end behind a
count. A plan has no other way to the bytes of a reply. So whatever holds of all plans holds of
every reader that runs one: what it takes, for one, does not depend on what follows. -/
namespace RemoteDev

open FieldReader

namespace FieldReader

variable {α : Type} {data rest field : Bytes} {n : Int}

def whole (reader : FieldReader α) : FieldReader α := do
  let a ← reader
  finish
  return a

/-- A count, and then what a reader takes if nothing follows it. -/
def counted (inner : Int → FieldReader α) : FieldReader α := do
  let count ← number
  whole (inner count)

theorem whole_run_of_ok {reader : FieldReader α} {a : α} (h : reader.run data = .ok (a, rest)) :
    (whole reader).run data =
      if rest = [] then .ok (a, []) else .error (.trailingBytes rest.length) := by
  rw [whole, run_bind_of_ok h]
  cases rest <;> rfl

theorem number_append_right (more : Bytes) (h : number.run data = .ok (n, rest)) :
    number.run (data ++ more) = .ok (n, rest ++ more) := by
  obtain ⟨digits, hsplit, hn⟩ := number_eq_ok.1 h
  exact number_eq_ok.2 ⟨digits, splitColon_append_right more hsplit, hn⟩

theorem bytes_append_right (more : Bytes) (h : bytes.run data = .ok (field, rest)) :
    bytes.run (data ++ more) = .ok (field, rest ++ more) := by
  obtain ⟨front, hfield, rfl⟩ := bytes_eq_ok_iff.1 h
  exact bytes_eq_ok_iff.2 ⟨front, hfield, List.append_assoc _ _ _⟩

end FieldReader

/-- What to ask for, and what to make of the answers. -/
inductive Plan : Type → Type 1
  | done {α : Type} (a : α) : Plan α
  | fail {α : Type} (e : FieldError) : Plan α
  | field {α : Type} (next : Bytes → Plan α) : Plan α
  | record {α β : Type} (inner : Int → Plan β) (next : β → Plan α) : Plan α

namespace Plan

variable {α β : Type}

def bind {α β : Type} : Plan α → (α → Plan β) → Plan β
  | done a, more => more a
  | fail e, _ => fail e
  | field next, more => field fun content => (next content).bind more
  | record inner next, more => record inner fun x => (next x).bind more

def reader {α : Type} : Plan α → FieldReader α
  | done a => return a
  | fail e => throw e
  | field next => do
    let content ← bytes
    (next content).reader
  | record inner next => do
    let content ← bytes
    let x ← (counted fun count => (inner count).reader).value content
    (next x).reader

abbrev inside (inner : Int → Plan β) (content : Bytes) : Except FieldError β :=
  (counted fun count => (inner count).reader).value content

theorem reader_bind (plan : Plan α) (more : α → Plan β) :
    (plan.bind more).reader = plan.reader >>= fun a => (more a).reader := by
  induction plan with
  | done a => simp only [bind, reader, pure_bind]
  | fail e => rfl
  | field next ih => simp only [bind, reader, ih, bind_assoc]
  | record inner next _ ih => simp only [bind, reader, ih, bind_assoc]

section Steps

variable {next : Bytes → Plan α} {inner : Int → Plan β} {behind : β → Plan α}
  {data content rest : Bytes} {e : FieldError}

theorem run_record_of_ok (h : bytes.run data = .ok (content, rest)) :
    (record inner behind).reader.run data =
      inside inner content >>= fun x => (behind x).reader.run rest := by
  rw [reader, run_bind_of_ok h]
  show (liftM (inside inner content) >>= _ : FieldReader α).run rest = _
  cases inside inner content <;> rfl

theorem inside_of_error {count : Int} (hcount : number.run content = .ok (count, rest))
    (h : (inner count).reader.run rest = .error e) : inside inner content = .error e := by
  rw [inside, value, counted, run_bind_of_ok hcount, whole, run_bind_of_error h]
  rfl

end Steps

/-- What a plan takes does not depend on what follows. -/
theorem run_append (plan : Plan α) {data rest : Bytes} {a : α} (more : Bytes)
    (h : plan.reader.run data = .ok (a, rest)) :
    plan.reader.run (data ++ more) = .ok (a, rest ++ more) := by
  induction plan generalizing data with
  | done a =>
    cases h
    rfl
  | fail e => cases h
  | field next ih =>
    obtain ⟨content, mid, hfield, hnext⟩ := run_bind_eq_ok.1 h
    rw [reader, run_bind_of_ok (bytes_append_right more hfield)]
    exact ih content hnext
  | record inner next _ ih =>
    obtain ⟨content, mid, hfield, -⟩ := run_bind_eq_ok.1 h
    rw [run_record_of_ok hfield] at h
    obtain ⟨x, hx, hnext⟩ := bind_eq_ok.1 h
    rw [run_record_of_ok (bytes_append_right more hfield), hx]
    exact ih x hnext

/-- What comes of a plan on the body of a reply. If it is closed then nothing may follow what it
takes. -/
def outcome (plan : Plan α) (closed : Bool) (body : Bytes) : Except FieldError α :=
  (if closed then whole plan.reader else plan.reader).value body

section Outcome

variable {plan : Plan α} {closed : Bool} {body : Bytes} {a : α} {e : FieldError}

theorem outcome_of_error (h : plan.reader.run body = .error e) :
    plan.outcome closed body = .error e := by
  cases closed with
  | false => exact congrArg (Except.map Prod.fst) h
  | true => exact congrArg (Except.map Prod.fst) (run_bind_of_error h)

theorem outcome_of_ok {rest : Bytes} (h : plan.reader.run body = .ok (a, rest)) :
    plan.outcome closed body =
      if closed = true ∧ rest ≠ [] then .error (.trailingBytes rest.length) else .ok a := by
  cases closed with
  | false =>
    rw [if_neg (by simp)]
    exact congrArg (Except.map Prod.fst) h
  | true =>
    have hwhole := congrArg (Except.map Prod.fst) (whole_run_of_ok h)
    cases rest with
    | nil => exact hwhole
    | cons b r => exact hwhole

theorem outcome_eq_ok_iff : plan.outcome closed body = .ok a ↔
    ∃ rest, plan.reader.run body = .ok (a, rest) ∧ (closed = true → rest = []) := by
  cases hrun : plan.reader.run body with
  | error e => simp [outcome_of_error hrun]
  | ok p =>
    obtain ⟨a', rest⟩ := p
    rw [outcome_of_ok hrun]
    by_cases hrest : closed = true ∧ rest ≠ []
    · rw [if_pos hrest]
      simp [hrest.1, hrest.2]
    · rw [if_neg hrest]
      simp only [Except.ok.injEq, Prod.mk.injEq]
      constructor
      · rintro rfl
        exact ⟨rest, ⟨rfl, rfl⟩, fun hclosed => by_contra fun hne => hrest ⟨hclosed, hne⟩⟩
      · rintro ⟨_, ⟨rfl, rfl⟩, -⟩
        rfl

theorem outcome_append (h : plan.outcome closed body = .ok a) (more : Bytes) :
    plan.outcome closed (body ++ more) =
      if closed = true ∧ more ≠ [] then .error (.trailingBytes more.length) else .ok a := by
  obtain ⟨rest, hrun, hrest⟩ := outcome_eq_ok_iff.1 h
  rw [outcome_of_ok (plan.run_append more hrun)]
  cases closed with
  | false => simp
  | true => rw [hrest rfl, List.nil_append]

end Outcome

end Plan

abbrev PlanFor {α : Type} (reader : FieldReader α) : Type 1 :=
  { plan : Plan α // plan.reader = reader }

namespace PlanFor

variable {α β : Type} {reader other : FieldReader α} {next : α → FieldReader β}

def done (a : α) : PlanFor (pure a) := ⟨.done a, rfl⟩

def fail (e : FieldError) : PlanFor (throw e : FieldReader α) := ⟨.fail e, rfl⟩

def failBind (e : FieldError) : PlanFor ((throw e : FieldReader α) >>= next) := ⟨.fail e, rfl⟩

def bytes : PlanFor FieldReader.bytes := ⟨.field .done, bind_pure FieldReader.bytes⟩

def bind (first : PlanFor reader) (more : ∀ a, PlanFor (next a)) : PlanFor (reader >>= next) :=
  ⟨first.1.bind fun a => (more a).1, by
    rw [Plan.reader_bind, first.2]
    exact congrArg (reader >>= ·) (funext fun a => (more a).2)⟩

def ite {c : Prop} [Decidable c] (yes : PlanFor reader) (no : PlanFor other) :
    PlanFor (if c then reader else other) :=
  ⟨if c then yes.1 else no.1, by
    split
    · exact yes.2
    · exact no.2⟩

def dite {c : Prop} [Decidable c] {reader : c → FieldReader α} {other : ¬ c → FieldReader α}
    (yes : ∀ h, PlanFor (reader h)) (no : ∀ h, PlanFor (other h)) :
    PlanFor (if h : c then reader h else other h) :=
  ⟨if h : c then (yes h).1 else (no h).1, by
    split
    case isTrue h => exact (yes h).2
    case isFalse h => exact (no h).2⟩

def ofExcept : (outcome : Except FieldError α) → PlanFor (liftM outcome : FieldReader α)
  | .ok a => done a
  | .error e => fail e

/-- A field that a reader with a plan reads to the end, behind a count. -/
def record {inner : Int → FieldReader α} (plans : ∀ count, PlanFor (inner count)) :
    PlanFor (do let record ← FieldReader.bytes; (counted inner).value record) :=
  ⟨.record (fun count => (plans count).1) .done, by
    simp only [Plan.reader, bind_pure, (plans _).2]⟩

def text : PlanFor FieldReader.text := bytes.bind fun _ => done _

def integer (field : String) : PlanFor (FieldReader.integer field) :=
  bytes.bind fun b => match numeral b with
    | .ok n => done n
    | .error _ => fail _

def integerOrEmpty (field : String) : PlanFor (FieldReader.integerOrEmpty field) :=
  bytes.bind fun b => match b with
    | [] => done 0
    | c :: r => match numeral (c :: r) with
      | .ok n => done n
      | .error _ => fail _

def repeated (plan : PlanFor reader) : (n : Nat) → PlanFor (reader.repeated n)
  | 0 => done []
  | n + 1 => plan.bind fun _ => (plan.repeated n).bind fun _ => done _

def exactly (plan : PlanFor reader) : (n : Nat) → PlanFor (reader.exactly n)
  | 0 => done _
  | n + 1 => plan.bind fun _ => (plan.exactly n).bind fun _ => done _

end PlanFor
end RemoteDev
