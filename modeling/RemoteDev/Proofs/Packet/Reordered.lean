import Mathlib
import RemoteDev.Proofs.Packet.Admission
import RemoteDev.Proofs.Packet.Document

/-! Containers in which children are set one after the other. A child that is set a second time
leaves no trace of the first, and two children may be set in either order: slots come out the same,
and new fields trade places. -/
namespace RemoteDev

namespace Segment

def alike : Segment → Segment → Bool
  | index _, index _ => true
  | field _, field _ => true
  | _, _ => false

theorem alike_self (s : Segment) : s.alike s = true := by cases s <;> rfl

theorem alike_comm (s t : Segment) : s.alike t = t.alike s := by cases s <;> cases t <;> rfl

end Segment

namespace Value

theorem ext_slotAt {a b : List (Option Value)} (hlength : a.length = b.length)
    (h : ∀ k, slotAt a k = slotAt b k) : a = b := by
  refine List.ext_getElem hlength fun k ha hb => ?_
  simpa [slotAt, ha, hb] using h k

theorem setSlot_setSlot (items : List (Option Value)) (i : Nat) (v w : Value) :
    setSlot (setSlot items i v) i w = setSlot items i w := by
  apply ext_slotAt
  · simp [length_setSlot]
  · intro k
    by_cases hk : i = k
    · subst hk
      rw [slotAt_setSlot_self, slotAt_setSlot_self]
    · simp [slotAt_setSlot_ne, hk]

theorem setSlot_comm (items : List (Option Value)) {i j : Nat} (h : i ≠ j) (v w : Value) :
    setSlot (setSlot items i v) j w = setSlot (setSlot items j w) i v := by
  apply ext_slotAt
  · simp only [length_setSlot]
    omega
  · intro k
    by_cases hi : i = k
    · subst hi
      rw [slotAt_setSlot_ne _ _ h.symm, slotAt_setSlot_self, slotAt_setSlot_self]
    · by_cases hj : j = k
      · subst hj
        rw [slotAt_setSlot_self, slotAt_setSlot_ne _ _ h, slotAt_setSlot_self]
      · simp [slotAt_setSlot_ne, hi, hj]

theorem setField_setField (name : String) (v w : Option Value)
    (fields : List (String × Option Value)) :
    setField name w (setField name v fields) = setField name w fields := by
  induction fields with
  | nil => simp [setField]
  | cons f r ih =>
    by_cases hf : f.1 = name
    · simp [setField, hf]
    · simp [setField, hf, ih]

/-- Two fields may be set in either order if one of them is there already. -/
theorem setField_comm {name other : String} (hne : name ≠ other) (v w : Option Value)
    {fields : List (String × Option Value)}
    (h : name ∈ fields.map Prod.fst ∨ other ∈ fields.map Prod.fst) :
    setField other w (setField name v fields) = setField name v (setField other w fields) := by
  induction fields with
  | nil => simp at h
  | cons f r ih =>
    by_cases hname : f.1 = name
    · simp [setField, hname, hne]
    · by_cases hother : f.1 = other
      · simp [setField, hother, hne.symm]
      · have hr : name ∈ r.map Prod.fst ∨ other ∈ r.map Prod.fst := by
          simpa [Ne.symm hname, Ne.symm hother] using h
        simp [setField, hname, hother, ih hr]

theorem setField_setField_of_not_mem {name other : String} (hne : name ≠ other)
    (v w : Option Value) {fields : List (String × Option Value)}
    (hname : name ∉ fields.map Prod.fst) (hother : other ∉ fields.map Prod.fst) :
    setField other w (setField name v fields) = fields ++ (name, v) :: [(other, w)] := by
  have hnew : other ∉ (fields ++ [(name, v)]).map Prod.fst := by
    rw [List.map_append, List.mem_append, not_or]
    exact ⟨hother, by simpa using hne.symm⟩
  rw [setField_of_not_mem v hname, setField_of_not_mem w hnew, List.append_assoc]
  rfl

theorem exists_setField (name : String) (fields : List (String × Option Value)) :
    ∃ front rest, ∀ v, setField name v fields = front ++ (name, v) :: rest := by
  induction fields with
  | nil => exact ⟨[], [], fun _ => rfl⟩
  | cons f r ih =>
    by_cases hf : f.1 = name
    · exact ⟨[], r, fun v => by simp [setField, hf]⟩
    · obtain ⟨front, rest, h⟩ := ih
      exact ⟨f :: front, rest, fun v => by simp [setField, hf, h]⟩

theorem exists_setSlot (items : List (Option Value)) (i : Nat) :
    ∃ front rest, ∀ v, setSlot items i v = front ++ some v :: rest := by
  have hi : i < (items ++ List.replicate (i + 1 - items.length) (none : Option Value)).length := by
    simp only [List.length_append, List.length_replicate]
    omega
  exact ⟨_, _, fun v => by rw [setSlot, List.set_eq_take_append_cons_drop, if_pos hi]⟩

/-- Trees that differ in the order of fields only: anywhere in them, neighbouring fields of
different names may change places. -/
inductive Reordered : Value → Value → Prop
  | refl (v : Value) : Reordered v v
  | trans {u v w : Value} (h : Reordered u v) (h' : Reordered v w) : Reordered u w
  | swap {front rest : List (String × Option Value)} {f g : String × Option Value}
      (h : f.1 ≠ g.1) :
      Reordered (struct (front ++ f :: g :: rest)) (struct (front ++ g :: f :: rest))
  | slot {front rest : List (Option Value)} {v w : Value} (h : Reordered v w) :
      Reordered (array (front ++ some v :: rest)) (array (front ++ some w :: rest))
  | field {front rest : List (String × Option Value)} {name : String} {v w : Value}
      (h : Reordered v w) :
      Reordered (struct (front ++ (name, some v) :: rest))
        (struct (front ++ (name, some w) :: rest))

theorem child?_withChild_self (before : Option Value) (w : Value) (s : Segment) :
    (withChild before w s).child? s = some w := by
  cases s with
  | index i => exact slotAt_setSlot_self _ i w
  | field name => exact fieldOf_setField_self name (some w) _

theorem admits_withChild (before : Option Value) (w : Value) (s t : Segment) :
    (withChild before w s).admits t = s.alike t := by
  cases s <;> cases t <;> rfl

theorem admits_of_alike {u : Value} {s t : Segment} (h : u.admits s = true)
    (hkind : s.alike t = true) : u.admits t = true := by
  cases u <;> cases s <;> cases t <;> simp_all [admits, Segment.alike]

theorem withChild_withChild_self (before : Option Value) (v w : Value) (s : Segment) :
    withChild (some (withChild before v s)) w s = withChild before w s := by
  cases s with
  | index i => exact congrArg array (setSlot_setSlot _ i v w)
  | field name => exact congrArg struct (setField_setField name (some v) (some w) _)

theorem holds_withChild {before : Option Value} {s : Segment}
    (h : ∀ u, before = some u → u.admits s = true) (w : Value) :
    Holds w s before (withChild before w s) := by
  cases s with
  | index i =>
    cases before with
    | none => exact .index (.inr ⟨rfl, rfl⟩)
    | some u =>
      cases u with
      | array items => exact .index (.inl rfl)
      | bool | number | text | struct => exact absurd (h _ rfl) Bool.false_ne_true
  | field name =>
    cases before with
    | none => exact .field (.inr ⟨rfl, rfl⟩)
    | some u =>
      cases u with
      | struct fields => exact .field (.inl rfl)
      | bool | number | text | array => exact absurd (h _ rfl) Bool.false_ne_true

theorem reordered_withChild {v w : Value} (h : Reordered v w) (before : Option Value)
    (s : Segment) : Reordered (withChild before v s) (withChild before w s) := by
  cases s with
  | index i =>
    obtain ⟨front, rest, hset⟩ := exists_setSlot (slotsOf before) i
    simp only [withChild, hset]
    exact .slot h
  | field name =>
    obtain ⟨front, rest, hset⟩ := exists_setField name (fieldsOf before)
    simp only [withChild, hset]
    exact .field h

theorem reordered_withChild_withChild {s t : Segment} (hst : s ≠ t) (hkind : s.alike t = true)
    (before : Option Value) (v w : Value) :
    Reordered (withChild (some (withChild before v s)) w t)
      (withChild (some (withChild before w t)) v s) := by
  cases s with
  | index i =>
    cases t with
    | index j =>
      have hij : i ≠ j := fun e => hst (congrArg Segment.index e)
      show Reordered (array (setSlot (setSlot (slotsOf before) i v) j w))
        (array (setSlot (setSlot (slotsOf before) j w) i v))
      rw [setSlot_comm _ hij]
      exact .refl _
    | field => cases hkind
  | field name =>
    cases t with
    | index => cases hkind
    | field other =>
      have hne : name ≠ other := fun e => hst (congrArg Segment.field e)
      show Reordered (struct (setField other (some w) (setField name (some v) (fieldsOf before))))
        (struct (setField name (some v) (setField other (some w) (fieldsOf before))))
      by_cases hold : name ∈ (fieldsOf before).map Prod.fst ∨
          other ∈ (fieldsOf before).map Prod.fst
      · rw [setField_comm hne _ _ hold]
        exact .refl _
      · rw [not_or] at hold
        rw [setField_setField_of_not_mem hne _ _ hold.1 hold.2,
          setField_setField_of_not_mem hne.symm _ _ hold.2 hold.1]
        exact .swap hne

end Value
end RemoteDev
