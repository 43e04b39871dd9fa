import RemoteDev.Proofs.Packet.Document
import RemoteDev.Proofs.Packet.Path

/-! Packets of one struct, which is how commands carry several parameters. Values that are put
under different names into the struct at the first slot make up such a packet, and its document is
read back as it, so that each value is found where it was put and nothing else is there. -/
namespace RemoteDev

open Markup

/-- Names of fields that paths lead to and documents carry: they begin with a letter and hold no
comma. -/
def isPathName (name : String) : Bool :=
  name.toList.head?.any isLetter && name.toList.all fun c => c ≠ ',' && isFieldChar c

theorem parse_of_isPathName {name : String} (h : isPathName name = true) :
    Path.parse ("0," ++ name) = .ok [.index 0, .field name] := by
  rw [isPathName, Bool.and_eq_true, List.all_eq_true] at h
  obtain ⟨hfirst, hchars⟩ := h
  have hcomma : ',' ∉ name.toList := fun hmem => absurd (hchars _ hmem) (by decide)
  cases hname : name.toList with
  | nil => simp [hname] at hfirst
  | cons c r => exact Path.parse_first hname (by simpa [hname] using hfirst) hcomma

namespace Packet

variable {fields more : List (String × Value)} {name : String} {v : Value}

def presentFields (fields : List (String × Value)) : List (String × Option Value) :=
  fields.map fun f => (f.1, some f.2)

def ofFields (fields : List (String × Value)) : Packet :=
  ⟨none, some (.array [some (.struct (presentFields fields))])⟩

theorem names_presentFields (fields : List (String × Value)) :
    (presentFields fields).map Prod.fst = fields.map Prod.fst := by
  rw [presentFields, List.map_map]
  rfl

theorem put_empty_first (h : isPathName name = true) (v : Value) :
    empty.put ("0," ++ name) v = .ok (ofFields [(name, v)]) := by
  rw [put, parse_of_isPathName h]
  rfl

theorem put_first (h : isPathName name = true) (hnew : name ∉ fields.map Prod.fst) (v : Value) :
    (ofFields fields).put ("0," ++ name) v = .ok (ofFields (fields ++ [(name, v)])) := by
  have hfield : Value.setField name (some v) (presentFields fields) =
      presentFields (fields ++ [(name, v)]) := by
    rw [Value.setField_of_not_mem _ (by rwa [names_presentFields]), presentFields, presentFields,
      List.map_append]
    rfl
  rw [put, parse_of_isPathName h, ofFields, ofFields, ← hfield]
  rfl

theorem foldlM_put_first (hnames : ∀ f ∈ more, isPathName f.1 = true)
    (hdistinct : ((fields ++ more).map Prod.fst).Nodup) :
    (more.map fun f => ("0," ++ f.1, f.2)).foldlM (fun p (path, value) => p.put path value)
      (ofFields fields) = .ok (ofFields (fields ++ more)) := by
  induction more generalizing fields with
  | nil =>
    rw [List.append_nil]
    rfl
  | cons f r ih =>
    have hnew : f.1 ∉ fields.map Prod.fst := by
      rw [List.map_append, List.nodup_append] at hdistinct
      exact fun hmem => hdistinct.2.2 _ hmem _ (List.mem_map_of_mem List.mem_cons_self) rfl
    have hput := put_first (hnames f List.mem_cons_self) hnew f.2
    have happend : fields ++ f :: r = fields ++ [f] ++ r := by
      rw [List.append_assoc, List.singleton_append]
    rw [happend] at hdistinct ⊢
    rw [List.map_cons, List.foldlM_cons]
    simp only [hput, ok_bind]
    exact ih (fun g hg => hnames g (List.mem_cons_of_mem f hg)) hdistinct

theorem fieldOf_presentFields (fields : List (String × Value)) (name : String) :
    Value.fieldOf (presentFields fields) name = fields.lookup name := by
  induction fields with
  | nil => rfl
  | cons f r ih =>
    rw [Value.fieldOf, presentFields, List.map_cons, List.lookup_cons, List.lookup_cons]
    cases name == f.1 with
    | true => rfl
    | false => exact ih

theorem get?_ofFields (hname : isPathName name = true) (hdistinct : (fields.map Prod.fst).Nodup)
    (h : (name, v) ∈ fields) : (ofFields fields).get? ("0," ++ name) = some v := by
  have hlookup : fields.lookup name = some v := by
    obtain ⟨front, rest, rfl⟩ := List.append_of_mem h
    refine List.lookup_eq_some_iff.2 ⟨front, rest, rfl, fun f hf => ?_⟩
    rw [List.map_append, List.nodup_append] at hdistinct
    have hne := hdistinct.2.2 _ (List.mem_map_of_mem hf) name (by simp)
    simpa using Ne.symm hne
  have hslot (w : Value) : Value.slotAt [some w] 0 = some w := rfl
  rw [get?, ofFields, Option.bind_some, Value.get?, parse_of_isPathName hname]
  simp only [Value.descend, Value.child?, hslot, Option.bind_some, fieldOf_presentFields, hlookup]

theorem get?_ofFields_first (fields : List (String × Value)) :
    (ofFields fields).get? "0" = some (.struct (presentFields fields)) := rfl

theorem portableFields_presentFields (hnames : ∀ f ∈ fields, isPathName f.1 = true)
    (hvalues : ∀ f ∈ fields, f.2.portable = true) :
    Value.portableFields (presentFields fields) = true := by
  induction fields with
  | nil => rfl
  | cons f r ih =>
    have hname := hnames f List.mem_cons_self
    rw [isPathName, Bool.and_eq_true, List.all_eq_true] at hname
    have hchars : f.1.toList.all isFieldChar = true :=
      List.all_eq_true.2 fun c hc => (Bool.and_eq_true _ _ ▸ hname.2 c hc).2
    have hothers := ih (fun g hg => hnames g (List.mem_cons_of_mem f hg))
      fun g hg => hvalues g (List.mem_cons_of_mem f hg)
    rw [presentFields, List.map_cons, Value.portableFields, hchars, hvalues f List.mem_cons_self]
    exact hothers

theorem gaplessFields_presentFields (hvalues : ∀ f ∈ fields, f.2.gapless = true) :
    Value.gaplessFields (presentFields fields) = true := by
  induction fields with
  | nil => rfl
  | cons f r ih =>
    have hothers := ih fun g hg => hvalues g (List.mem_cons_of_mem f hg)
    rw [presentFields, List.map_cons, Value.gaplessFields, hvalues f List.mem_cons_self]
    exact hothers

theorem ofMarkup_ofFields (hnames : ∀ f ∈ fields, isPathName f.1 = true)
    (hdistinct : (fields.map Prod.fst).Nodup)
    (hvalues : ∀ f ∈ fields, f.2.portable = true ∧ f.2.gapless = true) :
    ofMarkup (ofFields fields).toMarkup = .ok (ofFields fields) := by
  have hportable : (ofFields fields).portable = true := by
    have hfields := portableFields_presentFields hnames fun f hf => (hvalues f hf).1
    simp [portable, ofFields, Value.portable, Value.portableItems, Value.maxLength, hfields,
      names_presentFields, hdistinct]
  have hgapless : (ofFields fields).gapless = true := by
    have hfields := gaplessFields_presentFields fun f hf => (hvalues f hf).2
    simp [gapless, ofFields, Value.gapless, Value.gaplessItems, hfields]
  rw [ofMarkup, toMarkup, Node.read_write (tidy_toNode hportable) rfl]
  dsimp only
  rw [ofNode_toNode hportable, packed_of_gapless hgapless]

end Packet
end RemoteDev
