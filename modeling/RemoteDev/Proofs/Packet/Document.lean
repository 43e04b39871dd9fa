import RemoteDev.Proofs.Packet.Characters

/-! The document of a packet is read back as the packet, with the present items of every array
in front. -/
namespace RemoteDev

open Markup

namespace Value

theorem whole_of_portable {x : Binary64} (h : (number x).portable = true) :
    x.isWhole = true ∧ x.wholePart < 10 ^ 16 := by
  simp only [portable, Bool.and_eq_true, decide_eq_true_eq] at h
  exact ⟨h.1, Nat.lt_of_le_of_lt h.2 (by decide)⟩

theorem isValueChar_of_isFieldChar {c : Char} (h : isFieldChar c = true) :
    isValueChar c = true := by
  simp only [isFieldChar, Bool.and_eq_true, decide_eq_true_eq] at h
  exact (isValueChar_iff c).2 ⟨h.1.1.1, h.1.2, h.2⟩

mutual

theorem charsIn_of_portable : (v : Value) → v.portable = true →
    v.charsIn (fun c => needsCode c || isTextChar c) isValueChar = true
  | bool _, _ => by rw [charsIn]
  | number _, _ => by rw [charsIn]
  | text s, h => by
    rw [portable, List.all_eq_true] at h
    rw [charsIn, List.all_eq_true]
    exact fun c hc => needsCode_or_isTextChar_of_isCarriedChar (h c hc)
  | array items, h => by
    rw [portable, Bool.and_eq_true] at h
    rw [charsIn]
    exact charsInItems_of_portable items h.2
  | struct fields, h => by
    rw [portable, Bool.and_eq_true] at h
    rw [charsIn]
    exact charsInFields_of_portable fields h.2

theorem charsInItems_of_portable : (items : List (Option Value)) → portableItems items = true →
    charsInItems (fun c => needsCode c || isTextChar c) isValueChar items = true
  | [], _ => rfl
  | none :: r, h => by
    rw [portableItems] at h
    rw [charsInItems]
    exact charsInItems_of_portable r h
  | some v :: r, h => by
    rw [portableItems, Bool.and_eq_true] at h
    rw [charsInItems, charsIn_of_portable v h.1, charsInItems_of_portable r h.2]
    rfl

theorem charsInFields_of_portable : (fields : List (String × Option Value)) →
    portableFields fields = true →
      charsInFields (fun c => needsCode c || isTextChar c) isValueChar fields = true
  | [], _ => rfl
  | (name, none) :: r, h => by
    rw [portableFields, Bool.and_eq_true, List.all_eq_true] at h
    rw [charsInFields, charsInFields_of_portable r h.2, Bool.and_true, List.all_eq_true]
    exact fun c hc => isValueChar_of_isFieldChar (h.1 c hc)
  | (name, some v) :: r, h => by
    rw [portableFields, Bool.and_eq_true, Bool.and_eq_true, List.all_eq_true] at h
    rw [charsInFields, charsIn_of_portable v h.1.2, charsInFields_of_portable r h.2, Bool.and_true,
      Bool.and_true, List.all_eq_true]
    exact fun c hc => isValueChar_of_isFieldChar (h.1.1 c hc)

end

theorem announcedLength?_decimalText {n : Nat} (h : n < 2 ^ 64) :
    announcedLength? (decimalText n) = some n := by
  have hnatural : Text.natural? 10 (Nat.toDigits 10 n) = some n := by
    have hunsigned := Text.unsigned?_toDigits n
    unfold Text.natural?
    split
    case h_1 r hr =>
      exact absurd (Text.isDigit_of_mem_toDigits (n := n) (hr ▸ List.mem_cons_self)) (by decide)
    case h_2 => exact hunsigned
  rw [announcedLength?, decimalText, String.toList_ofList, Text.trim_toDigits, hnatural,
    Option.filter_some, if_pos (by simpa using h)]

theorem fitted_packedItems {items : List (Option Value)} (h : items.length ≤ maxLength) :
    fitted (min items.length maxLength) (packedItems items) =
      packedItems items ++ List.replicate (items.countP Option.isNone) none := by
  have hlength := length_packedItems items
  rw [fitted, Nat.min_eq_left h, List.take_of_length_le (by omega)]
  congr 2
  omega

theorem elementValues_cons {n : Node} (hn : n.isText = false) (found : List (Option Value))
    (r : List Node) : elementValues found (n :: r) = elementValues (ofNode? n :: found) r := by
  cases n with
  | text content => cases hn
  | element name attributes children => rw [elementValues]

theorem firstValue?_cons {n : Node} (hn : n.isText = false) (r : List Node) :
    firstValue? (n :: r) = ofNode? n := by
  cases n with
  | text content => cases hn
  | element name attributes children => rw [firstValue?]

theorem setField_of_not_mem {name : String} (slot : Option Value)
    {fields : List (String × Option Value)} (h : name ∉ fields.map Prod.fst) :
    setField name slot fields = fields ++ [(name, slot)] := by
  induction fields with
  | nil => rfl
  | cons f r ih =>
    rw [List.map_cons, List.mem_cons] at h
    have hne : f.1 ≠ name := fun e => h (.inl e.symm)
    rw [setField, if_neg hne, ih fun hr => h (.inr hr), List.cons_append]

theorem structFields_cons {name : String} {found : List (String × Option Value)}
    (h : name ∉ found.map Prod.fst) (children r : List Node) :
    structFields found (.element "var" [("name", name)] children :: r) =
      structFields (found ++ [(name, firstValue? children)]) r := by
  rw [structFields, if_pos rfl, List.lookup_cons_self]
  dsimp only
  rw [setField_of_not_mem _ h]

theorem names_apart {name : String} {slot slot' : Option Value}
    {r found : List (String × Option Value)}
    (hdistinct : (((name, slot) :: r).map Prod.fst).Nodup)
    (hnew : ∀ f ∈ (name, slot) :: r, f.1 ∉ found.map Prod.fst) :
    name ∉ found.map Prod.fst ∧ (r.map Prod.fst).Nodup ∧
      ∀ f ∈ r, f.1 ∉ (found ++ [(name, slot')]).map Prod.fst := by
  rw [List.map_cons, List.nodup_cons] at hdistinct
  refine ⟨hnew _ List.mem_cons_self, hdistinct.2, ?_⟩
  intro f hf hmem
  rw [List.map_append, List.mem_append] at hmem
  rcases hmem with hmem | hmem
  · exact hnew f (List.mem_cons_of_mem _ hf) hmem
  · rw [List.map_singleton, List.mem_singleton] at hmem
    exact hdistinct.1 (hmem ▸ List.mem_map_of_mem hf)

mutual

theorem ofNode?_toNode : (v : Value) → v.portable = true → ofNode? v.toNode = some v.packed
  | bool b, _ => by
    rw [toNode, packed]
    cases b <;> rfl
  | number x, h => by
    obtain ⟨hwhole, hsize⟩ := whole_of_portable h
    have hread := Binary64.ofText?_packetText hwhole hsize
    rw [toNode, packed]
    simp only [ofNode?, directText, List.append_nil, hread, Option.map_some]
  | text s, _ => by
    rw [toNode, packed]
    simp only [ofNode?, codedText_textNodes, List.reverse_nil, List.nil_append,
      String.ofList_toList]
  | array items, h => by
    rw [portable, Bool.and_eq_true, decide_eq_true_eq] at h
    have hitems := elementValues_itemNodes items h.2 []
    have hlength : announcedLength? (decimalText items.length) = some items.length :=
      announcedLength?_decimalText (Nat.lt_of_le_of_lt h.1 (by decide))
    rw [toNode, packed, ← fitted_packedItems h.1]
    simp only [ofNode?, List.lookup_cons_self, hlength, hitems, Option.map_some,
      List.reverse_nil, List.nil_append]
  | struct fields, h => by
    rw [portable, Bool.and_eq_true, decide_eq_true_eq] at h
    have hfields := structFields_fieldNodes fields h.2 h.1 [] nofun
    rw [toNode, packed]
    simp only [ofNode?, hfields, List.nil_append]

theorem elementValues_itemNodes : (items : List (Option Value)) → portableItems items = true →
    ∀ found, elementValues found (itemNodes items) = found.reverse ++ packedItems items
  | [], _, found => by rw [itemNodes, elementValues, packedItems, List.append_nil]
  | none :: r, h, found => by
    rw [portableItems] at h
    rw [itemNodes, packedItems, elementValues_itemNodes r h]
  | some v :: r, h, found => by
    rw [portableItems, Bool.and_eq_true] at h
    rw [itemNodes, elementValues_cons (isText_toNode v), ofNode?_toNode v h.1,
      elementValues_itemNodes r h.2, packedItems, List.reverse_cons, List.append_assoc,
      List.singleton_append]

theorem structFields_fieldNodes : (fields : List (String × Option Value)) →
    portableFields fields = true → (fields.map Prod.fst).Nodup →
      ∀ found, (∀ f ∈ fields, f.1 ∉ found.map Prod.fst) →
        structFields found (fieldNodes fields) = found ++ packedFields fields
  | [], _, _, found, _ => by rw [fieldNodes, structFields, packedFields, List.append_nil]
  | (name, none) :: r, h, hdistinct, found, hnew => by
    rw [portableFields, Bool.and_eq_true] at h
    obtain ⟨hname, hr, happart⟩ := names_apart hdistinct hnew
    rw [fieldNodes, structFields_cons hname, structFields_fieldNodes r h.2 hr _ happart,
      packedFields, List.append_assoc, List.singleton_append]
    rfl
  | (name, some v) :: r, h, hdistinct, found, hnew => by
    rw [portableFields, Bool.and_eq_true, Bool.and_eq_true] at h
    obtain ⟨hname, hr, happart⟩ := names_apart hdistinct hnew
    rw [fieldNodes, structFields_cons hname, firstValue?_cons (isText_toNode v),
      ofNode?_toNode v h.1.2, structFields_fieldNodes r h.2 hr _ happart, packedFields,
      List.append_assoc, List.singleton_append]

end

end Value

namespace Packet

theorem firstValue?_of_portable {value : Option Value} (h : value.all Value.portable = true) :
    Value.firstValue? (value.toList.map Value.toNode) = value.map Value.packed := by
  cases value with
  | none => rfl
  | some v =>
    exact (Value.firstValue?_cons (Value.isText_toNode v) []).trans
      (Value.ofNode?_toNode v (by simpa using h))

theorem tidy_toNode {p : Packet} (h : p.portable = true) : p.toNode.Tidy := by
  have hpart {value : Option Value} (hv : value.all Value.portable = true) :
      value.all (Value.charsIn (fun c => needsCode c || isTextChar c) isValueChar) = true := by
    cases value with
    | none => rfl
    | some v => exact Value.charsIn_of_portable v hv
  rw [portable, Bool.and_eq_true] at h
  have hvisible : TakeVisible isTextChar isValueChar :=
    ⟨fun _ hc => isTextChar_of_isValueChar (isValueChar_of_isVisible hc),
      fun _ => isValueChar_of_isVisible⟩
  refine ⟨p.shaped_toNode, ?_⟩
  rw [charsIn_toNode hvisible, charsIn, hpart h.1, hpart h.2]
  rfl

theorem ofNode_toNode {p : Packet} (h : p.portable = true) : ofNode p.toNode = p.packed := by
  rw [portable, Bool.and_eq_true] at h
  have hheader := firstValue?_of_portable h.1
  have hdata := firstValue?_of_portable h.2
  rw [toNode, ofNode, if_pos rfl, packed, ← hheader, ← hdata]
  rfl

/-- Writing a packet that documents carry and reading the document gives the packet with its
arrays packed, and the packet itself if no array has a gap. -/
theorem ofMarkup_toMarkup {p : Packet} (h : p.portable = true) :
    ofMarkup p.toMarkup = .ok p.packed ∧
      (p.gapless = true → ofMarkup p.toMarkup = .ok p) := by
  have hread : ofMarkup p.toMarkup = .ok p.packed := by
    rw [ofMarkup, toMarkup, Node.read_write (tidy_toNode h) rfl]
    dsimp only
    rw [ofNode_toNode h]
  refine ⟨hread, fun hgapless => ?_⟩
  rw [hread, packed_of_gapless hgapless]

/-- A header with a name that has to be escaped, an absent field and a text with a control
character; slots between which one is absent; and the same slots without the gap. -/
theorem ofMarkup_toMarkup_of_gap :
    let header : Value := .struct [("<'", none), ("b", some (.text "]]>\x01\n"))]
    let minusZero : Value := .number { Binary64.zero with negative := true }
    let large : Value := .number (Binary64.ofInt (2 ^ 53))
    ofMarkup (toMarkup ⟨some header, some (.array [none, some minusZero, none, some large])⟩) =
      .ok ⟨some header, some (.array [some minusZero, some large, none, none])⟩ ∧
    ofMarkup (toMarkup ⟨some header, some (.array [some minusZero, some large, none, none])⟩) =
      .ok ⟨some header, some (.array [some minusZero, some large, none, none])⟩ := by
  refine ⟨?_, ?_⟩
  · have hportable : portable ⟨some (.struct [("<'", none), ("b", some (.text "]]>\x01\n"))]),
        some (.array [none, some (.number { Binary64.zero with negative := true }), none,
          some (.number (Binary64.ofInt (2 ^ 53)))])⟩ = true := by decide +kernel
    exact (ofMarkup_toMarkup hportable).1
  · exact (ofMarkup_toMarkup (by decide +kernel)).2 (by decide +kernel)

end Packet
end RemoteDev
