import RemoteDev.Proofs.Packet.Characters
import RemoteDev.Proofs.Packet.Path
import RemoteDev.Proofs.Packet.Placement

/-! Trees in which no array is longer than allowed and no struct has two fields of one name. Any
document stands for such trees, whatever lengths it announces and however often it names a
field, and no put leads out of them, whether it succeeds or not. -/
namespace RemoteDev

open Markup

namespace Value

/-- The nodes of a tree: its root, and the nodes in the slots of its arrays and the fields of its
structs, those of fields that no path leads to included. -/
inductive IsNode (node : Value) : Value → Prop
  | root : IsNode node node
  | slot {items : List (Option Value)} {v : Value} (hmem : some v ∈ items)
      (h : IsNode node v) : IsNode node (array items)
  | field {fields : List (String × Option Value)} {name : String} {v : Value}
      (hmem : (name, some v) ∈ fields) (h : IsNode node v) : IsNode node (struct fields)

structure WellFormed (v : Value) : Prop where
  bounded : ∀ items, (array items).IsNode v → items.length ≤ maxLength
  distinct : ∀ fields, (struct fields).IsNode v → (fields.map Prod.fst).Nodup

def isLeaf : Value → Bool
  | array _ => false
  | struct _ => false
  | _ => true

theorem wellFormed_of_isLeaf {v : Value} (h : v.isLeaf = true) : v.WellFormed := by
  cases v with
  | bool | number | text => exact ⟨nofun, nofun⟩
  | array | struct => cases h

theorem wellFormed_array_iff {items : List (Option Value)} :
    (array items).WellFormed ↔
      items.length ≤ maxLength ∧ ∀ v, some v ∈ items → v.WellFormed := by
  constructor
  · intro h
    exact ⟨h.bounded items .root, fun v hv =>
      ⟨fun _ hnode => h.bounded _ (.slot hv hnode), fun _ hnode => h.distinct _ (.slot hv hnode)⟩⟩
  · rintro ⟨hlength, hitems⟩
    constructor
    · intro _ hnode
      cases hnode with
      | root => exact hlength
      | slot hmem hnode => exact (hitems _ hmem).bounded _ hnode
    · intro _ hnode
      cases hnode with
      | slot hmem hnode => exact (hitems _ hmem).distinct _ hnode

theorem wellFormed_struct_iff {fields : List (String × Option Value)} :
    (struct fields).WellFormed ↔
      (fields.map Prod.fst).Nodup ∧ ∀ name v, (name, some v) ∈ fields → v.WellFormed := by
  constructor
  · intro h
    exact ⟨h.distinct fields .root, fun name v hv =>
      ⟨fun _ hnode => h.bounded _ (.field hv hnode),
        fun _ hnode => h.distinct _ (.field hv hnode)⟩⟩
  · rintro ⟨hnames, hfields⟩
    constructor
    · intro _ hnode
      cases hnode with
      | field hmem hnode => exact (hfields _ _ hmem).bounded _ hnode
    · intro _ hnode
      cases hnode with
      | root => exact hnames
      | field hmem hnode => exact (hfields _ _ hmem).distinct _ hnode

theorem wellFormed_setSlot {items : List (Option Value)} {i : Nat} {v : Value}
    (h : (array items).WellFormed) (hi : i < maxLength) (hv : v.WellFormed) :
    (array (setSlot items i v)).WellFormed := by
  obtain ⟨hlength, hitems⟩ := wellFormed_array_iff.1 h
  refine wellFormed_array_iff.2 ⟨?_, ?_⟩
  · rw [length_setSlot]
    omega
  · intro w hw
    rcases mem_setSlot hw with rfl | hw
    · exact hv
    · exact hitems w hw

theorem wellFormed_setField {name : String} {slot : Option Value}
    {fields : List (String × Option Value)} (h : (struct fields).WellFormed)
    (hslot : ∀ v, slot = some v → v.WellFormed) :
    (struct (setField name slot fields)).WellFormed := by
  obtain ⟨hnames, hfields⟩ := wellFormed_struct_iff.1 h
  refine wellFormed_struct_iff.2 ⟨?_, ?_⟩
  · rw [names_setField]
    split
    case isTrue => exact hnames
    case isFalse hnew =>
      rw [← List.concat_eq_append]
      exact hnames.concat hnew
  · intro n v hv
    rcases mem_setField hv with hv | hv
    · exact hslot v (congrArg Prod.snd hv).symm
    · exact hfields n v hv

theorem wellFormed_child? {v w : Value} {s : Segment} (hv : v.WellFormed)
    (h : v.child? s = some w) : w.WellFormed := by
  unfold child? at h
  split at h
  case h_1 items i =>
    exact (wellFormed_array_iff.1 hv).2 w (mem_of_slotAt h)
  case h_2 fields name =>
    exact (wellFormed_struct_iff.1 hv).2 name w (mem_of_fieldOf h)
  case h_3 => cases h

/-- Placing keeps a tree well-formed if the indices on the way are allowed ones. -/
theorem wellFormed_place {leaf v : Value} (hleaf : leaf.WellFormed) {segments : List Segment}
    {before : Option Value} (hbefore : ∀ u, before = some u → u.WellFormed)
    (hindices : ∀ i, .index i ∈ segments → i < maxLength)
    (h : place leaf segments before = .ok v) : v.WellFormed := by
  refine of_place (fun _ _ _ => wellFormed_child?) ?_ hleaf hbefore h
  intro s hs before w u hold hw hu
  cases hu with
  | @index i before items hitems =>
    have hitemsOk : (array items).WellFormed := by
      rcases hitems with hitems | ⟨-, rfl⟩
      · exact hold _ hitems
      · exact wellFormed_array_iff.2 ⟨Nat.zero_le _, nofun⟩
    exact wellFormed_setSlot hitemsOk (hindices i hs) hw
  | @field name before fields hfields =>
    have hfieldsOk : (struct fields).WellFormed := by
      rcases hfields with hfields | ⟨-, rfl⟩
      · exact hold _ hfields
      · exact wellFormed_struct_iff.2 ⟨List.nodup_nil, nofun⟩
    exact wellFormed_setField hfieldsOk fun _ hu => Option.some.inj hu ▸ hw

theorem length_fitted (length : Nat) (values : List (Option Value)) :
    (fitted length values).length = length := by
  rw [fitted, List.length_append, List.length_take, List.length_replicate]
  omega

theorem mem_fitted {length : Nat} {values : List (Option Value)} {v : Value}
    (h : some v ∈ fitted length values) : some v ∈ values := by
  rcases List.mem_append.1 h with h | h
  · exact List.mem_of_mem_take h
  · cases List.eq_of_mem_replicate h

mutual

/-- The induction is on the nodes of the document. An array is cut to the allowed length before
it is filled, and a variable whose name has been found replaces the value of that field. -/
theorem wellFormed_of_ofNode? : (n : Node) → ∀ v, ofNode? n = some v → v.WellFormed
  | .text _, _, h => by
    rw [ofNode?] at h
    cases h
  | .element name attributes children, v, h => by
    unfold ofNode? at h
    -- the names: boolean, number, string, array, struct, and any other
    split at h
    case h_1 =>
      split at h
      · cases h
        exact wellFormed_of_isLeaf rfl
      · cases h
        exact wellFormed_of_isLeaf rfl
      · cases h
    case h_2 =>
      obtain ⟨x, -, rfl⟩ := Option.map_eq_some_iff.1 h
      exact wellFormed_of_isLeaf rfl
    case h_3 =>
      cases h
      exact wellFormed_of_isLeaf rfl
    case h_4 =>
      obtain ⟨length, -, rfl⟩ := Option.map_eq_some_iff.1 h
      refine wellFormed_array_iff.2 ⟨?_, ?_⟩
      · rw [length_fitted]
        exact Nat.min_le_right _ _
      · exact fun w hw => wellFormed_of_mem_elementValues children [] nofun w (mem_fitted hw)
    case h_5 =>
      cases h
      exact wellFormed_structFields children []
        (wellFormed_struct_iff.2 ⟨List.nodup_nil, nofun⟩)
    case h_6 => cases h

theorem wellFormed_of_mem_elementValues : (ns : List Node) → (found : List (Option Value)) →
    (∀ v, some v ∈ found → v.WellFormed) →
      ∀ v, some v ∈ elementValues found ns → v.WellFormed
  | [], found, hfound, v, h => by
    rw [elementValues, List.mem_reverse] at h
    exact hfound v h
  | .text _ :: r, found, hfound, v, h => by
    rw [elementValues] at h
    exact wellFormed_of_mem_elementValues r found hfound v h
  | .element name attributes children :: r, found, hfound, v, h => by
    rw [elementValues] at h
    refine wellFormed_of_mem_elementValues r _ ?_ v h
    intro w hw
    rcases List.mem_cons.1 hw with hw | hw
    · exact wellFormed_of_ofNode? (.element name attributes children) w hw.symm
    · exact hfound w hw

theorem wellFormed_of_firstValue? : (ns : List Node) →
    ∀ v, firstValue? ns = some v → v.WellFormed
  | [], _, h => by
    rw [firstValue?] at h
    cases h
  | .text _ :: r, v, h => by
    rw [firstValue?] at h
    exact wellFormed_of_firstValue? r v h
  | .element name attributes children :: _, v, h => by
    rw [firstValue?] at h
    exact wellFormed_of_ofNode? (.element name attributes children) v h

theorem wellFormed_structFields : (ns : List Node) → (found : List (String × Option Value)) →
    (struct found).WellFormed → (struct (structFields found ns)).WellFormed
  | [], found, hfound => by
    rw [structFields]
    exact hfound
  | .text _ :: r, found, hfound => by
    rw [structFields]
    exact wellFormed_structFields r found hfound
  | .element name attributes children :: r, found, hfound => by
    rw [structFields]
    split
    · split
      · exact wellFormed_structFields r _
          (wellFormed_setField hfound (wellFormed_of_firstValue? children))
      · exact wellFormed_structFields r found hfound
    · exact wellFormed_structFields r found hfound

end

end Value

namespace Packet

structure WellFormed (p : Packet) : Prop where
  header : ∀ v, p.header = some v → v.WellFormed
  data : ∀ v, p.data = some v → v.WellFormed

def tryPut (p : Packet) (path : String) (value : Value) : Packet :=
  match p.put path value with
  | .ok q => q
  | .error _ => p

def tryPuts (p : Packet) (entries : List (String × Value)) : Packet :=
  entries.foldl (fun p (path, value) => p.tryPut path value) p

theorem wellFormed_empty : empty.WellFormed := ⟨nofun, nofun⟩

theorem wellFormed_of_part? {name : String} {ns : List Node} {v : Value}
    (h : part? name ns = some v) : v.WellFormed := by
  induction ns with
  | nil => cases h
  | cons n r ih =>
    cases n with
    | text => exact ih h
    | element _ _ children =>
      rw [part?] at h
      split at h
      · exact Value.wellFormed_of_firstValue? children v h
      · exact ih h

theorem wellFormed_of_ofMarkup {text : String} {p : Packet} (h : ofMarkup text = .ok p) :
    p.WellFormed := by
  rw [ofMarkup] at h
  split at h
  case h_1 root hroot =>
    cases h
    unfold ofNode
    split
    · exact wellFormed_empty
    · split
      · exact ⟨fun _ => wellFormed_of_part?, fun _ => wellFormed_of_part?⟩
      · exact wellFormed_empty
  case h_2 => cases h

theorem wellFormed_put {p q : Packet} {path : String} {value : Value} (hp : p.WellFormed)
    (hvalue : value.WellFormed) (h : p.put path value = .ok q) : q.WellFormed := by
  obtain ⟨segments, data, hparse, hplace, rfl⟩ := put_eq_ok.1 h
  refine ⟨hp.header, ?_⟩
  intro v hv
  cases hv
  exact Value.wellFormed_place hvalue hp.data (fun _ => lt_maxLength_of_mem_parse hparse) hplace

theorem wellFormed_tryPut {p : Packet} (hp : p.WellFormed) (path : String) {value : Value}
    (hvalue : value.WellFormed) : (p.tryPut path value).WellFormed := by
  rw [tryPut]
  split
  case h_1 q hput => exact wellFormed_put hp hvalue hput
  case h_2 => exact hp

theorem wellFormed_tryPuts {p : Packet} (hp : p.WellFormed) {entries : List (String × Value)}
    (hvalues : ∀ e ∈ entries, e.2.WellFormed) : (p.tryPuts entries).WellFormed := by
  induction entries generalizing p with
  | nil => exact hp
  | cons e r ih =>
    have hfirst := wellFormed_tryPut hp e.1 (hvalues e List.mem_cons_self)
    exact ih hfirst fun e' he' => hvalues e' (List.mem_cons_of_mem e he')

/-- Whatever leaves are put into an empty packet or one that a document stands for, no array in its
trees is longer than allowed and no struct in them has two fields of one name. -/
theorem wellFormed_of_leaf_puts {start : Packet}
    (hstart : start = empty ∨ ∃ text, ofMarkup text = .ok start) {entries : List (String × Value)}
    (hleaves : ∀ e ∈ entries, e.2.isLeaf = true) : (start.tryPuts entries).WellFormed := by
  have hfirst : start.WellFormed := by
    rcases hstart with rfl | ⟨text, htext⟩
    · exact wellFormed_empty
    · exact wellFormed_of_ofMarkup htext
  exact wellFormed_tryPuts hfirst fun e he => Value.wellFormed_of_isLeaf (hleaves e he)

/-- A document that names a field twice, and four puts of which two fail. -/
theorem wellFormed_of_leaf_puts_into_document :
    let text := toMarkup
      ⟨none, some (.struct [("A", some (.bool true)), ("A", some (.array [none]))])⟩
    let entries : List (String × Value) :=
      [("A,2", .text "x"), ("A,65536", .bool true), ("A,B", .text "y"), ("B", .bool false)]
    ∃ start, ofMarkup text = .ok start ∧
      start.tryPuts entries =
        ⟨none, some (.struct [("A", some (.array [none, none, some (.text "x")])),
          ("B", some (.bool false))])⟩ ∧
      (start.tryPuts entries).WellFormed := by
  intro text entries
  have hstart : ofMarkup text = .ok ⟨none, some (.struct [("A", some (.array [none]))])⟩ := by
    rw [ofMarkup_toMarkup_eq]
    rfl
  have hleaves : ∀ e ∈ entries, e.2.isLeaf = true := by decide
  exact ⟨_, hstart, rfl, wellFormed_of_leaf_puts (.inr ⟨text, hstart⟩) hleaves⟩

end Packet
end RemoteDev
