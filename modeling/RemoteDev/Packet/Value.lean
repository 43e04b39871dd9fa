import RemoteDev.Binary64.Basic
import RemoteDev.Markup.CharacterData

/-! The exchange tree: booleans, numbers, texts, arrays and structs. The slots of an array
and the fields of a struct may be absent, which is distinct from every value. -/
namespace RemoteDev

inductive Value where
  | bool (b : Bool)
  | number (x : Binary64)
  | text (s : String)
  | array (items : List (Option Value))
  | struct (fields : List (String × Option Value))

namespace Value

def maxLength : Nat := 65536

def ofInt (n : Int) : Value := .number (Binary64.ofInt n)

def kind : Value → String
  | bool _ => "boolean"
  | number _ => "number"
  | text _ => "string"
  | array _ => "array"
  | struct _ => "struct"

def bool? : Value → Option Bool
  | bool b => some b
  | _ => none

def number? : Value → Option Binary64
  | number x => some x
  | _ => none

def text? : Value → Option String
  | text s => some s
  | _ => none

mutual

/-- Equality of trees, where numbers compare as numbers. -/
def same : Value → Value → Bool
  | bool a, bool b => a == b
  | number a, number b => a.same b
  | text a, text b => a == b
  | array a, array b => sameItems a b
  | struct a, struct b => sameFields a b
  | _, _ => false

def sameSlot : Option Value → Option Value → Bool
  | none, none => true
  | some a, some b => same a b
  | _, _ => false

def sameItems : List (Option Value) → List (Option Value) → Bool
  | [], [] => true
  | a :: r, b :: s => sameSlot a b && sameItems r s
  | _, _ => false

def sameFields : List (String × Option Value) → List (String × Option Value) → Bool
  | [], [] => true
  | (n, a) :: r, (m, b) :: s => n == m && sameSlot a b && sameFields r s
  | _, _ => false

end

def slotAt (items : List (Option Value)) (i : Nat) : Option Value := items[i]?.join

/-- Puts a value into a slot, with absent slots up to it where the array is too short. -/
def setSlot (items : List (Option Value)) (i : Nat) (v : Value) : List (Option Value) :=
  (items ++ List.replicate (i + 1 - items.length) none).set i (some v)

/-- The first field of a name, absent if there is none. -/
def fieldOf (fields : List (String × Option Value)) (name : String) : Option Value :=
  (fields.lookup name).join

/-- Replaces the first field of a name, or adds one at the end. -/
def setField (name : String) (v : Option Value) :
    List (String × Option Value) → List (String × Option Value)
  | [] => [(name, v)]
  | (n, w) :: r => if n = name then (n, v) :: r else (n, w) :: setField name v r

theorem length_setSlot (items : List (Option Value)) (i : Nat) (v : Value) :
    (setSlot items i v).length = max items.length (i + 1) := by
  simp only [setSlot, List.length_set, List.length_append, List.length_replicate]; omega

theorem slotAt_setSlot_self (items : List (Option Value)) (i : Nat) (v : Value) :
    slotAt (setSlot items i v) i = some v := by
  have h : i < (items ++ List.replicate (i + 1 - items.length) (none : Option Value)).length := by
    simp only [List.length_append, List.length_replicate]; omega
  simp [slotAt, setSlot, List.getElem?_set_self h]

theorem slotAt_setSlot_ne (items : List (Option Value)) {i j : Nat} (v : Value) (h : i ≠ j) :
    slotAt (setSlot items i v) j = slotAt items j := by
  simp only [slotAt, setSlot, List.getElem?_set_ne h, List.getElem?_append,
    List.getElem?_replicate]
  by_cases hj : j < items.length
  · simp [hj]
  · rw [if_neg hj, List.getElem?_eq_none (Nat.le_of_not_lt hj)]
    split <;> rfl

theorem fieldOf_setField_self (name : String) (v : Option Value)
    (fields : List (String × Option Value)) : fieldOf (setField name v fields) name = v := by
  induction fields with
  | nil => simp [setField, fieldOf]
  | cons f r ih =>
    obtain ⟨n, w⟩ := f
    by_cases h : n = name
    · simp [setField, fieldOf, h]
    · have h' : (name == n) = false := by simpa using fun e => h e.symm
      simpa [setField, fieldOf, h, List.lookup_cons, h'] using ih

end Value

inductive PacketError where
  | emptySegment (path : String)
  | needsArray (path segment : String)
  | needsStruct (path segment : String)
  | indexTooLarge (index : Nat)
  | malformed (error : Markup.MarkupError)

end RemoteDev
