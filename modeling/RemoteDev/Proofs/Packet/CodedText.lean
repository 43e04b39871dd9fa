import RemoteDev.Packet.Document
import RemoteDev.Proofs.Markup.Node
import RemoteDev.Proofs.Packet.Portable
import RemoteDev.Proofs.Text.Numeral

/-! Texts in packets are runs of characters and single characters by code. The nodes hold the
characters that stand for themselves, and they give the text back. -/
namespace RemoteDev

open Markup

theorem isPlainTag_nil {name : String} (hname : isPlainName name = true) : IsPlainTag name [] where
  named := hname
  plain := fun _ h => absurd h List.not_mem_nil
  distinct := List.nodup_nil

theorem isPlainTag_singleton {tag name : String} (htag : isPlainName tag = true)
    (hname : isPlainName name = true) (hunreserved : name ≠ "xmlns") (value : String) :
    IsPlainTag tag [(name, value)] where
  named := htag
  plain := by
    intro a ha
    rw [List.mem_singleton] at ha
    rw [ha]
    exact ⟨hname, hunreserved⟩
  distinct := by simp

theorem isPlainTag_code (c : Char) :
    IsPlainTag "char" [("code", String.ofList (hexPair (UInt8.ofNat c.toNat)))] :=
  isPlainTag_singleton (by decide) (by decide) (by decide) _

theorem isValueChar_of_isVisible {c : Char} (h : Text.isVisible c = true) :
    isValueChar c = true := by
  simp only [Text.isVisible, Bool.and_eq_true, decide_eq_true_eq] at h
  exact (isValueChar_iff c).2 (by omega)

theorem isVisible_hexDigit {n : Nat} (h : n < 16) : Text.isVisible (hexDigit n) = true := by
  revert n
  decide

theorem isVisible_of_mem_hexPair {b : UInt8} {c : Char} (h : c ∈ hexPair b) :
    Text.isVisible c = true := by
  have hbyte : b.toNat < 256 := UInt8.toNat_lt _
  simp only [hexPair, List.mem_cons, List.not_mem_nil, or_false] at h
  rcases h with rfl | rfl
  · exact isVisible_hexDigit (by omega)
  · exact isVisible_hexDigit (by omega)

theorem codeChar?_hexPair {c : Char} (h : c.toNat < 128) :
    Value.codeChar? (String.ofList (hexPair (UInt8.ofNat c.toNat))) = some c := by
  have hnatural : ∀ n < 128, Text.natural? 16 (hexPair (UInt8.ofNat n)) = some n := by decide
  have hvalid : c.toNat.isValidChar := c.valid
  rw [Value.codeChar?, String.toList_ofList, hnatural _ h, Option.bind_some, if_pos hvalid,
    Char.ofNat_toNat]

theorem lt_of_needsCode {c : Char} (h : needsCode c = true) : c.toNat < 128 := by
  simp only [needsCode, Bool.and_eq_true, Bool.or_eq_true, decide_eq_true_eq, beq_iff_eq] at h
  omega

def isWritableChar (c : Char) : Bool := c.toNat ≠ 0xFFFE && c.toNat ≠ 0xFFFF

/-- Of the characters without a code only two cannot stand in a document. -/
theorem needsCode_or_isDocumentChar (c : Char) :
    (needsCode c || isDocumentChar c) = isWritableChar c := by
  by_cases hbreak : c = '\t' ∨ c = '\n' ∨ c = '\r'
  · rcases hbreak with rfl | rfl | rfl <;> rfl
  · simp only [not_or] at hbreak
    obtain ⟨htab, hline, hreturn⟩ := hbreak
    rw [Bool.eq_iff_iff]
    by_cases hlow : c.toNat < 0x20
    · simp [needsCode, isDocumentChar, isWritableChar, htab, hline, hreturn, hlow]
      omega
    · simp [needsCode, isDocumentChar, isWritableChar, htab, hline, hreturn, hlow]
      omega

theorem needsCode_or_isTextChar_of_isCarriedChar {c : Char} (h : isCarriedChar c = true) :
    (needsCode c || isTextChar c) = true := by
  simp only [isCarriedChar, Bool.and_eq_true, decide_eq_true_eq] at h
  have hwritable := needsCode_or_isDocumentChar c
  simp_all [isWritableChar, isTextChar]

theorem shapedAll_runNodes_append (run : List Char) {ns : List Node} (hns : Node.ShapedAll ns)
    (hhead : ∀ m ∈ ns.head?, m.isText = false) : Node.ShapedAll (runNodes run ++ ns) := by
  cases run with
  | nil => exact hns
  | cons c r =>
    rw [runNodes, List.singleton_append, Node.ShapedAll, Node.Shaped]
    · exact ⟨by simp [← String.toList_inj], fun _ => hhead, hns⟩
    · simp

theorem shapedAll_textNodes (cs : List Char) :
    ∀ run : List Char, Node.ShapedAll (textNodes run cs) := by
  induction cs with
  | nil =>
    intro run
    have hshaped : Node.ShapedAll (runNodes run ++ []) :=
      shapedAll_runNodes_append run trivial nofun
    rwa [List.append_nil] at hshaped
  | cons c r ih =>
    intro run
    rw [textNodes]
    split
    case isTrue h =>
      refine shapedAll_runNodes_append run ?_ ?_
      · rw [Node.ShapedAll, codeNode, Node.Shaped]
        exact ⟨⟨isPlainTag_code c, trivial⟩, nofun, ih []⟩
      · intro m hm
        cases hm
        rfl
    case isFalse h => exact ih (c :: run)

section CharsIn

variable {inText inValue : Char → Bool}

theorem charsInAll_runNodes (run : List Char) :
    Node.charsInAll inText inValue (runNodes run) = run.all inText := by
  cases run with
  | nil => rfl
  | cons c r =>
    rw [runNodes, Node.charsInAll, Node.charsIn, Node.charsInAll, String.toList_ofList,
      Bool.and_true, List.all_reverse]
    simp

theorem charsIn_codeNode (hvalue : ∀ c, Text.isVisible c = true → inValue c = true) (c : Char) :
    (codeNode c).charsIn inText inValue = true := by
  have hpair : (hexPair (UInt8.ofNat c.toNat)).all inValue = true :=
    List.all_eq_true.2 fun d hd => hvalue d (isVisible_of_mem_hexPair hd)
  rw [codeNode, Node.charsIn, Node.charsInAll, valuesCharsIn, List.all_cons, List.all_nil,
    String.toList_ofList, hpair]
  rfl

theorem charsInAll_textNodes (hvalue : ∀ c, Text.isVisible c = true → inValue c = true)
    (cs : List Char) : ∀ run : List Char,
      Node.charsInAll inText inValue (textNodes run cs) =
        (run.all inText && cs.all fun c => needsCode c || inText c) := by
  induction cs with
  | nil =>
    intro run
    rw [textNodes, charsInAll_runNodes, List.all_nil, Bool.and_true]
  | cons c r ih =>
    intro run
    rw [textNodes, List.all_cons]
    split
    case isTrue h =>
      rw [Node.charsInAll_append, charsInAll_runNodes, Node.charsInAll, charsIn_codeNode hvalue,
        ih, h]
      rfl
    case isFalse h =>
      have hself : needsCode c = false := by simpa using h
      rw [ih, List.all_cons, hself, Bool.false_or, Bool.and_left_comm, Bool.and_assoc]

end CharsIn

theorem codedText_runNodes_append (run : List Char) (ns : List Node) :
    Value.codedText (runNodes run ++ ns) = run.reverse ++ Value.codedText ns := by
  cases run with
  | nil => rfl
  | cons c r =>
    rw [runNodes, List.singleton_append, Value.codedText, String.toList_ofList]
    simp

theorem codedText_textNodes (cs : List Char) :
    ∀ run : List Char, Value.codedText (textNodes run cs) = run.reverse ++ cs := by
  induction cs with
  | nil =>
    intro run
    have hrun := codedText_runNodes_append run []
    rw [List.append_nil] at hrun
    exact hrun
  | cons c r ih =>
    intro run
    rw [textNodes]
    split
    case isTrue h =>
      have hcode := codeChar?_hexPair (lt_of_needsCode h)
      rw [codedText_runNodes_append, codeNode, Value.codedText, if_pos rfl, List.lookup_cons_self,
        Option.bind_some, hcode, ih []]
      rfl
    case isFalse h =>
      rw [ih (c :: run), List.reverse_cons, List.append_assoc, List.singleton_append]

end RemoteDev
