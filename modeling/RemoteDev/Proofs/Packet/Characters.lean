import RemoteDev.Proofs.Binary64.Text
import RemoteDev.Proofs.Packet.CodedText

/-! The characters of a packet's document are those of its texts and of the names of its fields,
beside visible ones. A document is refused exactly if one of them is a character that documents
cannot hold. -/
namespace RemoteDev

open Markup

/-- Classes of characters, of texts and of attribute values, that take in the visible ones. -/
structure TakeVisible (inText inValue : Char → Bool) : Prop where
  text : ∀ c, Text.isVisible c = true → inText c = true
  value : ∀ c, Text.isVisible c = true → inValue c = true

namespace Value

mutual

def charsIn (inText inName : Char → Bool) : Value → Bool
  | bool _ => true
  | number _ => true
  | text s => s.toList.all inText
  | array items => charsInItems inText inName items
  | struct fields => charsInFields inText inName fields

def charsInItems (inText inName : Char → Bool) : List (Option Value) → Bool
  | [] => true
  | none :: r => charsInItems inText inName r
  | some v :: r => charsIn inText inName v && charsInItems inText inName r

def charsInFields (inText inName : Char → Bool) : List (String × Option Value) → Bool
  | [] => true
  | (name, none) :: r => name.toList.all inName && charsInFields inText inName r
  | (name, some v) :: r =>
    name.toList.all inName && charsIn inText inName v && charsInFields inText inName r

end

theorem isText_toNode (v : Value) : v.toNode.isText = false := by
  cases v <;> rw [toNode] <;> rfl

theorem isText_head?_itemNodes (items : List (Option Value)) :
    ∀ m ∈ (itemNodes items).head?, m.isText = false := by
  induction items with
  | nil => exact nofun
  | cons slot r ih =>
    cases slot with
    | none => exact ih
    | some v =>
      intro m hm
      rw [itemNodes] at hm
      cases hm
      exact isText_toNode v

mutual

theorem shaped_toNode : (v : Value) → v.toNode.Shaped
  | bool b => by
    rw [toNode, Node.Shaped]
    exact ⟨isPlainTag_singleton (by decide) (by decide) (by decide) _, trivial⟩
  | number x => by
    rw [toNode, Node.Shaped]
    exact ⟨isPlainTag_nil (by decide), x.packetText_visible.1, nofun, trivial⟩
  | text s => by
    rw [toNode, Node.Shaped]
    exact ⟨isPlainTag_nil (by decide), shapedAll_textNodes s.toList []⟩
  | array items => by
    rw [toNode, Node.Shaped]
    exact ⟨isPlainTag_singleton (by decide) (by decide) (by decide) _, shapedAll_itemNodes items⟩
  | struct fields => by
    rw [toNode, Node.Shaped]
    exact ⟨isPlainTag_singleton (by decide) (by decide) (by decide) _,
      shapedAll_fieldNodes fields⟩

theorem shapedAll_itemNodes : (items : List (Option Value)) → Node.ShapedAll (itemNodes items)
  | [] => trivial
  | none :: r => by
    rw [itemNodes]
    exact shapedAll_itemNodes r
  | some v :: r => by
    rw [itemNodes, Node.ShapedAll]
    exact ⟨shaped_toNode v, fun _ => isText_head?_itemNodes r, shapedAll_itemNodes r⟩

theorem shapedAll_fieldNodes : (fields : List (String × Option Value)) →
    Node.ShapedAll (fieldNodes fields)
  | [] => trivial
  | (name, none) :: r => by
    rw [fieldNodes, Node.ShapedAll, Node.Shaped]
    exact ⟨⟨isPlainTag_singleton (by decide) (by decide) (by decide) name, trivial⟩, nofun,
      shapedAll_fieldNodes r⟩
  | (name, some v) :: r => by
    rw [fieldNodes, Node.ShapedAll, Node.Shaped]
    exact ⟨⟨isPlainTag_singleton (by decide) (by decide) (by decide) name, shaped_toNode v, nofun,
      trivial⟩, nofun, shapedAll_fieldNodes r⟩

end

section CharsIn

variable {inText inValue : Char → Bool}

theorem valuesCharsIn_of_visible (h : TakeVisible inText inValue) {name value : String}
    (hvisible : value.toList.all Text.isVisible = true) :
    valuesCharsIn inValue [(name, value)] = true := by
  rw [valuesCharsIn, List.all_cons, List.all_nil, Bool.and_true]
  exact List.all_eq_true.2 fun c hc => h.value c (List.all_eq_true.1 hvisible c hc)

mutual

/-- The element of a tree holds what the tree does, but for the characters by code. -/
theorem charsIn_toNode (h : TakeVisible inText inValue) : (v : Value) →
    v.toNode.charsIn inText inValue = v.charsIn (fun c => needsCode c || inText c) inValue
  | bool b => by
    rw [toNode, Node.charsIn, Node.charsInAll, charsIn,
      valuesCharsIn_of_visible h (by cases b <;> rfl)]
    rfl
  | number x => by
    have hchars : x.packetText.toList.all inText = true :=
      List.all_eq_true.2 fun c hc => h.text c (x.packetText_visible.2 c hc)
    rw [toNode, Node.charsIn, Node.charsInAll, Node.charsIn, Node.charsInAll, charsIn, hchars]
    rfl
  | text s => by
    rw [toNode, Node.charsIn, charsInAll_textNodes h.value, charsIn]
    rfl
  | array items => by
    have hlength : (decimalText items.length).toList.all Text.isVisible = true := by
      rw [decimalText, String.toList_ofList]
      exact Text.all_isVisible_toDigits _
    rw [toNode, Node.charsIn, charsIn, valuesCharsIn_of_visible h hlength, Bool.true_and,
      charsInAll_itemNodes h items]
  | struct fields => by
    rw [toNode, Node.charsIn, charsIn, valuesCharsIn_of_visible h rfl, Bool.true_and,
      charsInAll_fieldNodes h fields]

theorem charsInAll_itemNodes (h : TakeVisible inText inValue) : (items : List (Option Value)) →
    Node.charsInAll inText inValue (itemNodes items) =
      charsInItems (fun c => needsCode c || inText c) inValue items
  | [] => rfl
  | none :: r => by
    rw [itemNodes, charsInItems]
    exact charsInAll_itemNodes h r
  | some v :: r => by
    rw [itemNodes, charsInItems, Node.charsInAll, charsIn_toNode h v, charsInAll_itemNodes h r]

theorem charsInAll_fieldNodes (h : TakeVisible inText inValue) :
    (fields : List (String × Option Value)) →
    Node.charsInAll inText inValue (fieldNodes fields) =
      charsInFields (fun c => needsCode c || inText c) inValue fields
  | [] => rfl
  | (name, none) :: r => by
    rw [fieldNodes, charsInFields, Node.charsInAll, Node.charsIn, Node.charsInAll,
      charsInAll_fieldNodes h r, valuesCharsIn, List.all_cons, List.all_nil, Bool.and_true,
      Bool.and_true]
  | (name, some v) :: r => by
    rw [fieldNodes, charsInFields, Node.charsInAll, Node.charsIn, Node.charsInAll, Node.charsInAll,
      charsIn_toNode h v, charsInAll_fieldNodes h r, valuesCharsIn, List.all_cons, List.all_nil,
      Bool.and_true, Bool.and_true]

end

end CharsIn

end Value

namespace Packet

def charsIn (inText inName : Char → Bool) (p : Packet) : Bool :=
  p.header.all (Value.charsIn inText inName) && p.data.all (Value.charsIn inText inName)

/-- Packets whose documents hold no forbidden character: a text may have characters by their code,
the name of a field may not. -/
def isWritable (p : Packet) : Bool := p.charsIn isWritableChar isDocumentChar

theorem shaped_partNode {name : String} (hname : isPlainName name = true) (value : Option Value) :
    (partNode name value).Shaped := by
  rw [partNode, Node.Shaped]
  refine ⟨isPlainTag_nil hname, ?_⟩
  cases value with
  | none => exact trivial
  | some v => exact ⟨v.shaped_toNode, nofun, trivial⟩

theorem shaped_toNode (p : Packet) : p.toNode.Shaped := by
  rw [toNode, Node.Shaped]
  exact ⟨isPlainTag_singleton (by decide) (by decide) (by decide) _,
    shaped_partNode (by decide) p.header, nofun, shaped_partNode (by decide) p.data, nofun, trivial⟩

section CharsIn

variable {inText inValue : Char → Bool} (h : TakeVisible inText inValue)

include h

theorem charsIn_partNode (name : String) (value : Option Value) :
    (partNode name value).charsIn inText inValue =
      value.all (Value.charsIn (fun c => needsCode c || inText c) inValue) := by
  rw [partNode, Node.charsIn]
  cases value with
  | none => rfl
  | some v =>
    have hv := Value.charsIn_toNode h v
    simp [Node.charsInAll, valuesCharsIn, hv]

theorem charsIn_toNode (p : Packet) :
    p.toNode.charsIn inText inValue = p.charsIn (fun c => needsCode c || inText c) inValue := by
  rw [toNode, Node.charsIn, Node.charsInAll, Node.charsInAll, Node.charsInAll,
    Value.valuesCharsIn_of_visible h rfl, charsIn_partNode h,
    charsIn_partNode h, charsIn, Bool.true_and, Bool.and_true]

end CharsIn

theorem ofMarkup_toMarkup_eq (p : Packet) :
    ofMarkup p.toMarkup =
      if p.isWritable then .ok (ofNode p.toNode.shown)
      else .error (.malformed .forbiddenCharacter) := by
  have hvisible : TakeVisible isDocumentChar isDocumentChar :=
    ⟨fun _ hc => isDocumentChar_of_isValueChar (isValueChar_of_isVisible hc),
      fun _ hc => isDocumentChar_of_isValueChar (isValueChar_of_isVisible hc)⟩
  have hchars : p.toNode.charsIn isDocumentChar isDocumentChar = p.isWritable := by
    rw [charsIn_toNode hvisible, isWritable]
    simp only [needsCode_or_isDocumentChar]
  rw [ofMarkup, toMarkup, Node.read_write_of_shaped p.shaped_toNode rfl, hchars]
  cases p.isWritable <;> rfl

end Packet
end RemoteDev
