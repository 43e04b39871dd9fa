import Mathlib
import RemoteDev.Proofs.Packet.Acceptance
import RemoteDev.Proofs.Packet.FirstSlot
import RemoteDev.Proofs.Packet.PathText

/-! Structs that documents stand for. A document may name a field more than once, as may puts that
follow one another; both keep the first place of a name and the last of its values, so that reading
the variables of a struct comes to putting their values one after the other. -/
namespace RemoteDev

open Markup

theorem eraseDups_concat (names : List String) (name : String) :
    (names ++ [name]).eraseDups =
      if name ∈ names then names.eraseDups else names.eraseDups ++ [name] := by
  rw [List.eraseDups_append]
  by_cases h : name ∈ names
  · simp [List.removeAll, h]
  · simp [List.removeAll, h, List.eraseDups_cons]

structure IsFieldPath (name : String) : Prop where
  ne_empty : name ≠ ""
  comma_notMem : ',' ∉ name.toList
  not_index : ¬ (name.toList.length ≤ Segment.maxIndexDigits ∧ ∀ c ∈ name.toList, c.isDigit = true)

theorem parse_of_isFieldPath {name : String} (h : IsFieldPath name) :
    Path.parse name = .ok [.field name] := by
  have hparts : Path.parts name = [name.toList] := by
    rw [Path.parts, if_neg h.ne_empty, List.splitOn_eq_singleton h.comma_notMem]
  have hdenotes : Segment.Denotes name.toList (.field name) := by
    have hne : name.toList ≠ [] := by simpa using h.ne_empty
    have hname := Segment.Denotes.field hne fun i hi => h.not_index ⟨hi.short, hi.digits⟩
    rwa [String.ofList_toList] at hname
  rw [Path.parse_eq_ok_iff, hparts]
  exact .cons hdenotes .nil

namespace Markup.Node

def isNamed (name : String) : Node → Bool
  | text _ => false
  | element n _ _ => n == name

end Markup.Node

namespace Value

def setFields (entries : List (String × Value)) (fields : List (String × Option Value)) :
    List (String × Option Value) :=
  entries.foldl (fun fields e => setField e.1 (some e.2) fields) fields

theorem setFields_concat (entries : List (String × Value)) (e : String × Value)
    (fields : List (String × Option Value)) :
    setFields (entries ++ [e]) fields = setField e.1 (some e.2) (setFields entries fields) := by
  simp [setFields]

theorem names_setFields (entries : List (String × Value)) :
    (setFields entries []).map Prod.fst = (entries.map Prod.fst).eraseDups := by
  induction entries using List.reverseRecOn with
  | nil => rfl
  | append_singleton entries e ih =>
    rw [setFields_concat, names_setField, ih, List.map_append, List.map_singleton,
      eraseDups_concat]
    simp only [List.mem_eraseDups]

theorem fieldOf_setFields (entries : List (String × Value)) (name : String) :
    fieldOf (setFields entries []) name = entries.reverse.lookup name := by
  induction entries using List.reverseRecOn with
  | nil => rfl
  | append_singleton entries e ih =>
    rw [setFields_concat, List.reverse_append, List.reverse_singleton, List.singleton_append,
      List.lookup_cons]
    by_cases h : name = e.1
    · subst h
      simp [fieldOf_setField_self]
    · have hbeq : (name == e.1) = false := by simpa using h
      rw [fieldOf_setField_ne _ _ (Ne.symm h), ih, hbeq]

/-- A variable that holds a value under a name: the first element in it stands for the value. -/
def IsVariable (n : Node) (e : String × Value) : Prop :=
  ∃ attributes children inner, n = .element "var" attributes children ∧
    attributes.lookup "name" = some e.1 ∧ children.find? (fun m => !m.isText) = some inner ∧
    ofNode? inner = some e.2

theorem firstValue?_eq (ns : List Node) :
    firstValue? ns = (ns.find? fun m => !m.isText).bind ofNode? := by
  induction ns with
  | nil => rfl
  | cons n r ih =>
    cases n with
    | text content =>
      rw [firstValue?, ih]
      rfl
    | element name attributes children =>
      rw [firstValue?]
      rfl

/-- What stands between the variables adds nothing. -/
theorem structFields_eq_setFields {ns : List Node} {entries : List (String × Value)}
    (h : List.Forall₂ IsVariable (ns.filter (Node.isNamed "var")) entries)
    (found : List (String × Option Value)) : structFields found ns = setFields entries found := by
  induction ns generalizing entries found with
  | nil =>
    cases h
    rfl
  | cons n r ih =>
    cases n with
    | text content =>
      rw [structFields]
      exact ih h found
    | element name attributes children =>
      rw [structFields]
      by_cases hname : name = "var"
      · subst hname
        have hfilter : (Node.element "var" attributes children :: r).filter (Node.isNamed "var") =
            .element "var" attributes children :: r.filter (Node.isNamed "var") := rfl
        rw [hfilter] at h
        obtain ⟨e, others, ⟨_, _, inner, heq, hlookup, hinner, hvalue⟩, hothers, rfl⟩ :=
          List.forall₂_cons_left_iff.1 h
        cases heq
        have hfirst : firstValue? children = some e.2 := by
          rw [firstValue?_eq, hinner, Option.bind_some, hvalue]
        simp only [if_true, hlookup, hfirst]
        exact ih hothers _
      · have hother : Node.isNamed "var" (.element name attributes children) = false := by
          simpa [Node.isNamed] using hname
        rw [if_neg hname]
        rw [List.filter_cons_of_neg (by simp [hother])] at h
        exact ih h found

/-- Leaves that come back from their elements: booleans, numbers that are read as they are written,
and texts of characters that documents carry. -/
def Survives : Value → Prop
  | bool _ => True
  | number x => Binary64.ofText? (Text.trim x.packetText.toList) = some x
  | text s => s.toList.all isCarriedChar = true
  | array _ => False
  | struct _ => False

theorem survives_of_isWhole {x : Binary64} (hwhole : x.isWhole = true)
    (hsize : x.wholePart < 10 ^ 16) : (number x).Survives :=
  Binary64.ofText?_packetText hwhole hsize

theorem ofNode?_toNode_of_survives {v : Value} (h : v.Survives) : ofNode? v.toNode = some v := by
  cases v with
  | bool b => cases b <;> rfl
  | number x =>
    rw [toNode]
    have hread : Binary64.ofText? (Text.trim x.packetText.toList) = some x := h
    simp only [ofNode?, directText, List.append_nil, hread, Option.map_some]
  | text s =>
    rw [toNode]
    simp only [ofNode?, codedText_textNodes, List.reverse_nil, List.nil_append,
      String.ofList_toList]
  | array | struct => exact h.elim

theorem charsIn_of_survives {v : Value} (h : v.Survives) :
    v.charsIn (fun c => needsCode c || isTextChar c) isValueChar = true := by
  cases v with
  | bool | number => rw [charsIn]
  | text s =>
    rw [charsIn, List.all_eq_true]
    exact fun c hc => needsCode_or_isTextChar_of_isCarriedChar (List.all_eq_true.1 h c hc)
  | array | struct => exact h.elim

end Value

namespace Packet

open Value

theorem put_of_hasFields {p : Packet} {fields : List (String × Option Value)}
    (h : HasFields p.data fields) {name : String} (hname : IsFieldPath name) (v : Value) :
    p.put name v = .ok { p with data := some (.struct (setField name (some v) fields)) } := by
  rw [put, parse_of_isFieldPath hname]
  rcases h with h | ⟨h, rfl⟩ <;> (rw [ok_bind, h]; rfl)

theorem foldlM_put {entries : List (String × Value)} (hne : entries ≠ [])
    (hnames : ∀ e ∈ entries, IsFieldPath e.1) {p : Packet} {fields : List (String × Option Value)}
    (h : HasFields p.data fields) :
    entries.foldlM (fun p (name, v) => p.put name v) p =
      .ok { p with data := some (.struct (setFields entries fields)) } := by
  induction entries generalizing p fields with
  | nil => exact absurd rfl hne
  | cons e r ih =>
    obtain ⟨name, v⟩ := e
    obtain ⟨hname, hr⟩ := List.forall_mem_cons.1 hnames
    have hput := put_of_hasFields h hname v
    rw [List.foldlM_cons]
    show (p.put name v >>= _) = _
    rw [hput, ok_bind]
    cases r with
    | nil => rfl
    | cons next r => exact ih (List.cons_ne_nil next r) hr (.inl rfl)

/-- A document whose data is a struct with one variable for each of the entries, in their order. -/
def HoldsStruct (root : Node) (entries : List (String × Value)) : Prop :=
  ∃ rootAttributes parts dataAttributes inner attributes children,
    root = .element "wddxPacket" rootAttributes parts ∧
    parts.find? (Node.isNamed "data") = some (.element "data" dataAttributes inner) ∧
    inner.find? (fun m => !m.isText) = some (.element "struct" attributes children) ∧
    List.Forall₂ IsVariable (children.filter (Node.isNamed "var")) entries

theorem part?_of_find? {name : String} {ns : List Node} {attributes : List (String × String)}
    {children : List Node}
    (h : ns.find? (Node.isNamed name) = some (.element name attributes children)) :
    part? name ns = firstValue? children := by
  induction ns with
  | nil => cases h
  | cons n r ih =>
    cases n with
    | text content => exact ih h
    | element other _ _ =>
      rw [part?]
      by_cases hname : other = name
      · rw [List.find?_cons_of_pos (by simp [Node.isNamed, hname])] at h
        cases h
        rw [if_pos rfl]
      · rw [List.find?_cons_of_neg (by simp [Node.isNamed, hname])] at h
        rw [if_neg hname, ih h]

theorem data_of_holdsStruct {root : Node} {entries : List (String × Value)}
    (h : HoldsStruct root entries) :
    (ofNode root).data = some (.struct (setFields entries [])) := by
  obtain ⟨_, parts, _, inner, _, children, rfl, hdata, hstruct, hvariables⟩ := h
  have hpart := part?_of_find? hdata
  rw [firstValue?_eq, hstruct, Option.bind_some] at hpart
  show part? "data" parts = _
  rw [hpart, ← structFields_eq_setFields hvariables []]
  simp only [ofNode?]

theorem holdsStruct_toNode {entries : List (String × Value)}
    (h : ∀ e ∈ entries, ofNode? e.2.toNode = some e.2) :
    HoldsStruct (toNode ⟨none, some (.struct (presentFields entries))⟩) entries := by
  have hvariables : List.Forall₂ IsVariable
      ((fieldNodes (presentFields entries)).filter (Node.isNamed "var")) entries := by
    induction entries with
    | nil => exact .nil
    | cons e r ih =>
      obtain ⟨hvalue, hr⟩ := List.forall_mem_cons.1 h
      have hinner : [e.2.toNode].find? (fun m => !m.isText) = some e.2.toNode := by
        simp [isText_toNode]
      exact .cons ⟨_, _, _, rfl, List.lookup_cons_self, hinner, hvalue⟩ (ih hr)
  have hstruct : (Value.struct (presentFields entries)).toNode =
      .element "struct" [("type", "java.util.HashMap")] (fieldNodes (presentFields entries)) := by
    rw [Value.toNode]
  refine ⟨_, _, [], [(Value.struct (presentFields entries)).toNode],
    [("type", "java.util.HashMap")], _, rfl, rfl, ?_, hvariables⟩
  rw [hstruct]
  rfl

theorem tidy_of_survives {entries : List (String × Value)}
    (h : ∀ e ∈ entries, e.1.toList.all isValueChar = true ∧ e.2.Survives) :
    (toNode ⟨none, some (.struct (presentFields entries))⟩).Tidy := by
  have hvisible : TakeVisible isTextChar isValueChar :=
    ⟨fun _ hc => isTextChar_of_isValueChar (isValueChar_of_isVisible hc),
      fun _ => isValueChar_of_isVisible⟩
  refine ⟨shaped_toNode _, ?_⟩
  rw [charsIn_toNode hvisible, charsIn, Option.all_none, Option.all_some, Bool.true_and,
    Value.charsIn, charsInFields_iff]
  intro f hf
  obtain ⟨e, he, rfl⟩ := List.mem_map.1 hf
  refine ⟨(h e he).1, fun v hv => ?_⟩
  cases hv
  exact charsIn_of_survives (h e he).2

/-- A struct is read from a document as values are put into it one after the other, whichever way
the document gives its variables: the names stand in the order of their first places, and each has
the last of its values. So it is with the document of the struct that still has all the entries. -/
theorem data_of_document_eq_puts {entries : List (String × Value)} (hne : entries ≠ [])
    (hnames : ∀ e ∈ entries, IsFieldPath e.1) :
    ∃ fields,
      entries.foldlM (fun p (name, v) => p.put name v) empty =
        .ok ⟨none, some (.struct fields)⟩ ∧
      fields.map Prod.fst = (entries.map Prod.fst).eraseDups ∧
      (∀ name, fieldOf fields name = entries.reverse.lookup name) ∧
      (∀ text root, Node.read text = .ok root → HoldsStruct root entries →
        (ofMarkup text).map data = .ok (some (.struct fields))) ∧
      ((∀ e ∈ entries, e.1.toList.all isValueChar = true ∧ e.2.Survives) →
        (ofMarkup (toMarkup ⟨none, some (.struct (presentFields entries))⟩)).map data =
          .ok (some (.struct fields))) := by
  have hdocument (text : String) (root : Node) (hread : Node.read text = .ok root)
      (hholds : HoldsStruct root entries) :
      (ofMarkup text).map data = .ok (some (.struct (setFields entries []))) := by
    rw [ofMarkup, hread, ← data_of_holdsStruct hholds]
    rfl
  refine ⟨setFields entries [], foldlM_put hne hnames (.inr ⟨rfl, rfl⟩), names_setFields entries,
    fieldOf_setFields entries, hdocument, fun hcarried => ?_⟩
  exact hdocument _ _ (Node.read_write (tidy_of_survives hcarried) rfl)
    (holdsStruct_toNode fun e he => ofNode?_toNode_of_survives (hcarried e he).2)

/-- A name that comes back after another one, a long name of digits, and a control character. -/
theorem data_of_document_eq_puts_of_repeated_name :
    let entries : List (String × Value) := [("B", .text "x\x01"), ("12345678901", .bool true),
      ("B", .number (Binary64.ofInt (-7)))]
    entries ≠ [] ∧ (∀ e ∈ entries, IsFieldPath e.1) ∧
    (∀ e ∈ entries, e.1.toList.all isValueChar = true ∧ e.2.Survives) ∧
    ∃ fields,
      entries.foldlM (fun p (name, v) => p.put name v) empty =
        .ok ⟨none, some (.struct fields)⟩ ∧
      fields.map Prod.fst = ["B", "12345678901"] ∧
      (ofMarkup (toMarkup ⟨none, some (.struct (presentFields entries))⟩)).map data =
        .ok (some (.struct fields)) := by
  intro entries
  have hne : entries ≠ [] := List.cons_ne_nil _ _
  have hnames : ∀ e ∈ entries, IsFieldPath e.1 := by
    have hshort : IsFieldPath "B" := ⟨by simp, by simp, by simp⟩
    have hlong : IsFieldPath "12345678901" := ⟨by simp, by simp, by simp [Segment.maxIndexDigits]⟩
    simp only [entries, List.forall_mem_cons]
    exact ⟨hshort, hlong, hshort, nofun⟩
  have hnumber : (Value.number (Binary64.ofInt (-7))).Survives :=
    Value.survives_of_isWhole (by decide +kernel) (by decide +kernel)
  have hcarried : ∀ e ∈ entries, e.1.toList.all isValueChar = true ∧ e.2.Survives := by
    have htext : (Value.text "x\x01").Survives := rfl
    simp only [entries, List.forall_mem_cons]
    exact ⟨⟨rfl, htext⟩, ⟨rfl, trivial⟩, ⟨rfl, hnumber⟩, nofun⟩
  obtain ⟨fields, hputs, hfields, -, -, hdocument⟩ := data_of_document_eq_puts hne hnames
  exact ⟨hne, hnames, hcarried, fields, hputs, hfields, hdocument hcarried⟩

end Packet
end RemoteDev
