import RemoteDev.Packet.Basic

/-! Trees that are the same but for the sign of zeros have the same children, so that every path
leads to the same node of both. -/
namespace RemoteDev

theorem Binary64.eq_or_isZero_of_same {x y : Binary64} (h : x.same y = true) :
    x = y ∨ x.isZero = true ∧ y.isZero = true := by
  simp only [same, Bool.and_eq_true, Bool.or_eq_true, beq_iff_eq] at h
  exact h.2.symm

namespace Value

theorem sameSlot_none : sameSlot none none = true := by rw [sameSlot]

theorem sameSlot_slotAt {a b : List (Option Value)} (h : sameItems a b = true) (i : Nat) :
    sameSlot (slotAt a i) (slotAt b i) = true := by
  induction a generalizing b i with
  | nil =>
    cases b with
    | nil => exact sameSlot_none
    | cons y s => simp [sameItems] at h
  | cons x r ih =>
    cases b with
    | nil => simp [sameItems] at h
    | cons y s =>
      rw [sameItems, Bool.and_eq_true] at h
      cases i with
      | zero => exact h.1
      | succ i => exact ih h.2 i

theorem sameSlot_fieldOf {a b : List (String × Option Value)} (h : sameFields a b = true)
    (name : String) : sameSlot (fieldOf a name) (fieldOf b name) = true := by
  induction a generalizing b with
  | nil =>
    cases b with
    | nil => exact sameSlot_none
    | cons g s => simp [sameFields] at h
  | cons f r ih =>
    cases b with
    | nil => simp [sameFields] at h
    | cons g s =>
      obtain ⟨n, x⟩ := f
      obtain ⟨m, y⟩ := g
      simp only [sameFields, Bool.and_eq_true, beq_iff_eq] at h
      obtain ⟨⟨rfl, hslot⟩, hrest⟩ := h
      simp only [fieldOf, List.lookup_cons]
      cases name == n with
      | true => exact hslot
      | false => exact ih hrest

theorem sameSlot_bind {a b : Option Value} {f : Value → Option Value} (h : sameSlot a b = true)
    (hf : ∀ v w, same v w = true → sameSlot (f v) (f w) = true) :
    sameSlot (a.bind f) (b.bind f) = true := by
  cases a <;> cases b <;> simp only [sameSlot, Bool.false_eq_true] at h
  case none.none => exact sameSlot_none
  case some.some v w => exact hf v w h

theorem bind_eq_of_sameSlot {α : Type} {a b : Option Value} {f : Value → Option α}
    (h : sameSlot a b = true) (hf : ∀ v w, same v w = true → f v = f w) : a.bind f = b.bind f := by
  cases a <;> cases b <;> simp only [sameSlot, Bool.false_eq_true] at h
  case none.none => rfl
  case some.some v w => exact hf v w h

variable {v w : Value}

theorem text?_eq_of_same (h : same v w = true) : v.text? = w.text? := by
  cases v <;> cases w <;> simp only [same, Bool.false_eq_true] at h
  case text.text => rw [beq_iff_eq.1 h]
  all_goals rfl

/-- What does not tell zeros apart shows the same of the numbers at both. -/
theorem bind_number?_eq_of_same {α : Type} {f : Binary64 → Option α} (h : same v w = true)
    (hf : ∀ x y : Binary64, x.isZero = true → y.isZero = true → f x = f y) :
    v.number?.bind f = w.number?.bind f := by
  cases v <;> cases w <;> simp only [same, Bool.false_eq_true] at h
  case number.number x y =>
    obtain rfl | ⟨hx, hy⟩ := Binary64.eq_or_isZero_of_same h
    · rfl
    · exact hf x y hx hy
  all_goals rfl

theorem sameSlot_child? (h : same v w = true) (s : Segment) :
    sameSlot (v.child? s) (w.child? s) = true := by
  cases v <;> cases w <;> simp only [same, Bool.false_eq_true] at h
  case array.array =>
    cases s with
    | index i => exact sameSlot_slotAt h i
    | field name => exact sameSlot_none
  case struct.struct =>
    cases s with
    | index i => exact sameSlot_none
    | field name => exact sameSlot_fieldOf h name
  all_goals exact sameSlot_none

theorem sameSlot_descend (h : same v w = true) (segments : List Segment) :
    sameSlot (v.descend segments) (w.descend segments) = true := by
  induction segments generalizing v w with
  | nil => rwa [descend_nil, descend_nil, sameSlot]
  | cons s r ih => exact sameSlot_bind (sameSlot_child? h s) fun v w h => ih h

theorem sameSlot_get? (h : same v w = true) (path : String) :
    sameSlot (v.get? path) (w.get? path) = true := by
  rw [get?, get?]
  cases Path.parse path with
  | error e => exact sameSlot_none
  | ok segments => exact sameSlot_descend h segments

end Value

namespace Packet

theorem sameSlot_get? {p q : Packet} (h : p.same q = true) (path : String) :
    Value.sameSlot (p.get? path) (q.get? path) = true := by
  rw [same, Bool.and_eq_true] at h
  exact Value.sameSlot_bind h.2 fun _ _ h => Value.sameSlot_get? h path

end Packet
end RemoteDev
