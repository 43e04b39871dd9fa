import Mathlib
import RemoteDev.Packet.Basic

/-! Packets that documents carry, and what becomes of them: present items move to the front of
their array, whose length is kept. -/
namespace RemoteDev

/-- Characters that the texts of a document carry; a carriage return would become a line feed. -/
def isCarriedChar (c : Char) : Bool :=
  c ≠ '\r' && c.toNat ≠ 0xFFFE && c.toNat ≠ 0xFFFF

def isFieldChar (c : Char) : Bool :=
  0x20 ≤ c.toNat && c.toNat ≠ 0x7F && c.toNat ≠ 0xFFFE && c.toNat ≠ 0xFFFF

namespace Value

mutual

/-- Trees that documents carry: numbers are whole and no greater than `2 ^ 53` in magnitude,
arrays no longer than a document may make them, and the fields of a struct differ in their
names. -/
def portable : Value → Bool
  | bool _ => true
  | number x => x.isWhole && x.wholePart ≤ 2 ^ 53
  | text s => s.toList.all isCarriedChar
  | array items => items.length ≤ maxLength && portableItems items
  | struct fields => decide (fields.map Prod.fst).Nodup && portableFields fields

def portableItems : List (Option Value) → Bool
  | [] => true
  | none :: r => portableItems r
  | some v :: r => portable v && portableItems r

def portableFields : List (String × Option Value) → Bool
  | [] => true
  | (name, none) :: r => name.toList.all isFieldChar && portableFields r
  | (name, some v) :: r => name.toList.all isFieldChar && portable v && portableFields r

end

mutual

/-- The tree with the present items of every array in front of its absent slots. -/
def packed : Value → Value
  | array items =>
    array (packedItems items ++ List.replicate (items.countP Option.isNone) none)
  | struct fields => struct (packedFields fields)
  | bool b => bool b
  | number x => number x
  | text s => text s

def packedItems : List (Option Value) → List (Option Value)
  | [] => []
  | none :: r => packedItems r
  | some v :: r => some (packed v) :: packedItems r

def packedFields : List (String × Option Value) → List (String × Option Value)
  | [] => []
  | (name, none) :: r => (name, none) :: packedFields r
  | (name, some v) :: r => (name, some (packed v)) :: packedFields r

end

mutual

/-- Whether no absent slot of an array stands before a present one. -/
def gapless : Value → Bool
  | array items => gaplessItems items
  | struct fields => gaplessFields fields
  | bool _ => true
  | number _ => true
  | text _ => true

def gaplessItems : List (Option Value) → Bool
  | [] => true
  | none :: r => r.all Option.isNone
  | some v :: r => gapless v && gaplessItems r

def gaplessFields : List (String × Option Value) → Bool
  | [] => true
  | (_, none) :: r => gaplessFields r
  | (_, some v) :: r => gapless v && gaplessFields r

end

theorem packedItems_eq (items : List (Option Value)) :
    packedItems items = (items.filterMap id).map fun v => some v.packed := by
  induction items with
  | nil => rfl
  | cons slot r ih =>
    cases slot with
    | none => exact ih
    | some v =>
      rw [packedItems, ih]
      rfl

theorem length_packedItems (items : List (Option Value)) :
    (packedItems items).length + items.countP Option.isNone = items.length := by
  induction items with
  | nil => rfl
  | cons slot r ih =>
    cases slot with
    | none =>
      rw [packedItems, List.countP_cons_of_pos rfl, List.length_cons, ← ih]
      rfl
    | some v =>
      rw [packedItems, List.countP_cons_of_neg (by simp), List.length_cons, List.length_cons,
        ← ih]
      omega

theorem packedItems_of_all_absent {items : List (Option Value)}
    (h : items.all Option.isNone = true) : packedItems items = [] := by
  have hnone : items.filterMap id = [] := List.filterMap_eq_nil_iff.2 fun slot hslot =>
    Option.isNone_iff_eq_none.1 (List.all_eq_true.1 h slot hslot)
  rw [packedItems_eq, hnone, List.map_nil]

theorem eq_replicate_of_all_absent {items : List (Option Value)}
    (h : items.all Option.isNone = true) :
    items = List.replicate (items.countP Option.isNone) none := by
  have hall : ∀ slot ∈ items, slot = none := fun slot hslot =>
    Option.isNone_iff_eq_none.1 (List.all_eq_true.1 h slot hslot)
  rw [List.countP_eq_length.2 (List.all_eq_true.1 h)]
  exact List.eq_replicate_of_mem hall

mutual

theorem packed_of_gapless : (v : Value) → v.gapless = true → v.packed = v
  | array items, h => by
    rw [gapless] at h
    rw [packed, packedItems_append_of_gapless items h]
  | struct fields, h => by
    rw [gapless] at h
    rw [packed, packedFields_of_gapless fields h]
  | bool b, _ => by rw [packed]
  | number x, _ => by rw [packed]
  | text s, _ => by rw [packed]

theorem packedItems_append_of_gapless : (items : List (Option Value)) →
    gaplessItems items = true →
      packedItems items ++ List.replicate (items.countP Option.isNone) none = items
  | [], _ => rfl
  | none :: r, h => by
    rw [gaplessItems] at h
    have hall : (none :: r : List (Option Value)).all Option.isNone = true := by
      rw [List.all_cons, h]
      rfl
    rw [packedItems_of_all_absent hall]
    exact (eq_replicate_of_all_absent hall).symm
  | some v :: r, h => by
    rw [gaplessItems, Bool.and_eq_true] at h
    rw [packedItems, List.countP_cons_of_neg (by simp), List.cons_append,
      packed_of_gapless v h.1, packedItems_append_of_gapless r h.2]

theorem packedFields_of_gapless : (fields : List (String × Option Value)) →
    gaplessFields fields = true → packedFields fields = fields
  | [], _ => rfl
  | (name, none) :: r, h => by
    rw [gaplessFields] at h
    rw [packedFields, packedFields_of_gapless r h]
  | (name, some v) :: r, h => by
    rw [gaplessFields, Bool.and_eq_true] at h
    rw [packedFields, packed_of_gapless v h.1, packedFields_of_gapless r h.2]

end

end Value

namespace Packet

def portable (p : Packet) : Bool := p.header.all Value.portable && p.data.all Value.portable

def packed (p : Packet) : Packet := ⟨p.header.map Value.packed, p.data.map Value.packed⟩

def gapless (p : Packet) : Bool := p.header.all Value.gapless && p.data.all Value.gapless

theorem packed_of_gapless {p : Packet} (h : p.gapless = true) : p.packed = p := by
  have hpart : ∀ {v? : Option Value}, v?.all Value.gapless = true → v?.map Value.packed = v? := by
    intro v? hv
    cases v? with
    | none => rfl
    | some v => rw [Option.map_some, Value.packed_of_gapless v (by simpa using hv)]
  rw [gapless, Bool.and_eq_true] at h
  rw [packed, hpart h.1, hpart h.2]

end Packet
end RemoteDev
