import RemoteDev.Proofs.Markup.LineEnds
import RemoteDev.Proofs.Packet.Characters
import RemoteDev.Proofs.Packet.Path

/-! A text put under a name in the struct at the first slot of a packet, which is how parameters
travel. It is read back with its control characters, its markup characters and its blanks, but
for its line ends. -/
namespace RemoteDev

open Markup

theorem codedText_runNodes_shown (run : List Char) (ns : List Node) :
    Value.codedText (Node.shownAll (runNodes run ++ ns)) =
      (shownText (String.ofList run.reverse)).toList ++ Value.codedText (Node.shownAll ns) := by
  cases run with
  | nil => rfl
  | cons c r =>
    rw [runNodes, List.singleton_append, Node.shownAll, Node.shown, Value.codedText]
    simp

theorem shown_codeNode (c : Char) : (codeNode c).shown = codeNode c :=
  (Node.shown_of_charsIn _ (charsIn_codeNode (fun _ => isValueChar_of_isVisible) c)).2

/-- What reading makes of the nodes of a text: the text, but for its line ends. -/
theorem codedText_textNodes_shown (cs : List Char) : ∀ run : List Char,
    unifiedLines (Value.codedText (Node.shownAll (textNodes run cs))) =
        unifiedLines (run.reverse ++ cs) ∧
      ('\r' ∉ run.reverse ++ cs →
        Value.codedText (Node.shownAll (textNodes run cs)) = run.reverse ++ cs) := by
  have hrun (run : List Char) (hreturn : '\r' ∉ run.reverse) :
      (shownText (String.ofList run.reverse)).toList = run.reverse := by
    rw [shownText_of_no_return, String.toList_ofList]
    rintro c hc rfl
    exact hreturn (by simpa using hc)
  induction cs with
  | nil =>
    intro run
    have hnodes := codedText_runNodes_shown run []
    rw [List.append_nil, Node.shownAll, Value.codedText, List.append_nil] at hnodes
    rw [textNodes, hnodes, List.append_nil, unifiedLines_shownText, String.toList_ofList]
    exact ⟨rfl, hrun run⟩
  | cons c r ih =>
    intro run
    rw [textNodes]
    split
    case isTrue h =>
      obtain ⟨hunified, hself⟩ := ih []
      have hcode := codeChar?_hexPair (lt_of_needsCode h)
      have hnodes : Value.codedText (Node.shownAll (runNodes run ++ codeNode c :: textNodes [] r)) =
          (shownText (String.ofList run.reverse)).toList ++
            c :: Value.codedText (Node.shownAll (textNodes [] r)) := by
        rw [codedText_runNodes_shown, Node.shownAll, shown_codeNode, codeNode, Value.codedText,
          if_pos rfl, List.lookup_cons_self, Option.bind_some, hcode]
        rfl
      have hother : c ≠ '\r' ∧ c ≠ '\n' := by
        simp only [needsCode, Bool.and_eq_true, decide_eq_true_eq] at h
        exact ⟨h.2, h.1.2⟩
      rw [hnodes]
      refine ⟨?_, fun hreturn => ?_⟩
      · rw [unifiedLines_append_cons hother.1 hother.2, unifiedLines_append_cons hother.1 hother.2,
          unifiedLines_shownText, String.toList_ofList, hunified]
        rfl
      · rw [List.mem_append, List.mem_cons, not_or, not_or] at hreturn
        rw [hrun run hreturn.1, hself hreturn.2.2]
        rfl
    case isFalse h =>
      have hrest := ih (c :: run)
      rwa [List.reverse_cons, List.append_assoc, List.singleton_append] at hrest

theorem parse_named {name : String} (hne : name ≠ "")
    (hletters : ∀ c ∈ name.toList, isLetter c = true) :
    Path.parse ("0," ++ name) = .ok [.index 0, .field name] := by
  obtain ⟨c, r, hcons⟩ := List.exists_cons_of_ne_nil (mt String.toList_eq_nil_iff.1 hne)
  exact Path.parse_first hcons (hletters c (hcons ▸ List.mem_cons_self))
    fun h => absurd (hletters _ h) (by decide)

namespace Packet

def ofNamedText (name s : String) : Packet :=
  ⟨none, some (.array [some (.struct [(name, some (.text s))])])⟩

theorem put_named {name : String} (hne : name ≠ "")
    (hletters : ∀ c ∈ name.toList, isLetter c = true) (s : String) :
    empty.put ("0," ++ name) (.text s) = .ok (ofNamedText name s) := by
  rw [put, parse_named hne hletters]
  rfl

theorem text?_ofNamedText {name : String} (hne : name ≠ "")
    (hletters : ∀ c ∈ name.toList, isLetter c = true) (s : String) :
    (ofNamedText name s).text? ("0," ++ name) = some s := by
  have hslot (v : Value) : Value.slotAt [some v] 0 = some v := rfl
  have hfield : Value.fieldOf [(name, some (Value.text s))] name = some (.text s) := by
    rw [Value.fieldOf, List.lookup_cons_self]
    rfl
  rw [text?, get?, ofNamedText, Option.bind_some, Value.get?, parse_named hne hletters]
  simp only [Value.descend, Value.child?, hslot, Option.bind_some, hfield]
  rfl

theorem ofNode_shown_ofNamedText {name : String}
    (hname : ∀ c ∈ name.toList, isValueChar c = true) (s : String) :
    ofNode (ofNamedText name s).toNode.shown =
      ofNamedText name
        (String.ofList (Value.codedText (Node.shownAll (textNodes [] s.toList)))) := by
  have hvalue : shownValue name = name :=
    shownValue_of_no_break fun c hc => ne_break_of_isValueChar (hname c hc)
  have hlength : Value.announcedLength? (shownValue (decimalText 1)) = some 1 := rfl
  simp only [ofNamedText, toNode, partNode, Option.toList, List.map_cons, List.map_nil,
    Value.toNode, Value.itemNodes, Value.fieldNodes, Node.shown, Node.shownAll, shownAttributes,
    hvalue]
  generalize Node.shownAll (textNodes [] s.toList) = nodes
  simp only [List.length_singleton, ofNode, part?, Value.firstValue?, Value.ofNode?,
    List.lookup_cons_self, hlength, Value.elementValues, Value.structFields, Value.setField,
    if_true]
  rfl

/-- A text without the two characters beyond documents is read back from under its name with the
same lines, and unchanged if it has no carriage return. -/
theorem text?_ofMarkup_toMarkup {name s : String} (hne : name ≠ "")
    (hletters : ∀ c ∈ name.toList, isLetter c = true)
    (hs : ∀ c ∈ s.toList, isWritableChar c = true) :
    ∃ p q s', empty.put ("0," ++ name) (.text s) = .ok p ∧ ofMarkup p.toMarkup = .ok q ∧
      q.text? ("0," ++ name) = some s' ∧ unifiedLines s'.toList = unifiedLines s.toList ∧
      ('\r' ∉ s.toList → s' = s) := by
  have hvalue (c : Char) (hc : isLetter c = true) : isValueChar c = true := by
    have hcode := (isLetter_iff_toNat c).1 hc
    exact (isValueChar_iff c).2 (by omega)
  have hwritable : (ofNamedText name s).isWritable = true := by
    have htext : s.toList.all isWritableChar = true := List.all_eq_true.2 hs
    have hfield : name.toList.all isDocumentChar = true :=
      List.all_eq_true.2 fun c hc => isDocumentChar_of_isLetter (hletters c hc)
    simp only [isWritable, ofNamedText, charsIn, Option.all_none, Option.all_some, Value.charsIn,
      Value.charsInItems, Value.charsInFields, htext, hfield, Bool.and_self]
  have hread := ofMarkup_toMarkup_eq (ofNamedText name s)
  rw [hwritable, if_pos rfl,
    ofNode_shown_ofNamedText fun c hc => hvalue c (hletters c hc)] at hread
  obtain ⟨hunified, hself⟩ := codedText_textNodes_shown s.toList []
  refine ⟨_, _, _, put_named hne hletters s, hread, text?_ofNamedText hne hletters _, ?_, ?_⟩
  · rw [String.toList_ofList]
    exact hunified
  · intro hreturn
    rw [hself hreturn]
    exact String.ofList_toList

/-- A text of control characters, markup and blanks. -/
theorem text?_ofMarkup_toMarkup_of_blanks :
    ∃ p q, empty.put "0,NAME" (.text "a\x01\t\n <b>  &") = .ok p ∧ ofMarkup p.toMarkup = .ok q ∧
      q.text? "0,NAME" = some "a\x01\t\n <b>  &" := by
  have hne : "NAME" ≠ "" := by decide
  have hletters : ∀ c ∈ "NAME".toList, isLetter c = true := List.all_eq_true.1 rfl
  have hs : ∀ c ∈ "a\x01\t\n <b>  &".toList, isWritableChar c = true := List.all_eq_true.1 rfl
  have hreturn : '\r' ∉ "a\x01\t\n <b>  &".toList := by decide
  obtain ⟨p, q, s', hput, hread, htext, -, hself⟩ := text?_ofMarkup_toMarkup hne hletters hs
  rw [hself hreturn] at htext
  exact ⟨p, q, hput, hread, htext⟩

/-- A carriage return is read back as a line feed. -/
theorem text?_ofMarkup_toMarkup_of_return :
    ∃ p q, empty.put "0,NAME" (.text "a\rb") = .ok p ∧ ofMarkup p.toMarkup = .ok q ∧
      q.text? "0,NAME" = some "a\nb" ∧ q.text? "0,NAME" ≠ some "a\rb" := by
  have hne : "NAME" ≠ "" := by decide
  have hletters : ∀ c ∈ "NAME".toList, isLetter c = true := List.all_eq_true.1 rfl
  have hname : ∀ c ∈ "NAME".toList, isValueChar c = true := List.all_eq_true.1 rfl
  have hwritable : (ofNamedText "NAME" "a\rb").isWritable = true := rfl
  have hshown : String.ofList (Value.codedText (Node.shownAll (textNodes [] "a\rb".toList))) =
      "a\nb" := rfl
  have hread := ofMarkup_toMarkup_eq (ofNamedText "NAME" "a\rb")
  rw [hwritable, if_pos rfl, ofNode_shown_ofNamedText hname, hshown] at hread
  have htext : (ofNamedText "NAME" "a\nb").text? "0,NAME" = some "a\nb" :=
    text?_ofNamedText hne hletters "a\nb"
  refine ⟨_, _, put_named hne hletters _, hread, htext, ?_⟩
  rw [htext]
  decide

end Packet
end RemoteDev
