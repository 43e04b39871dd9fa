import RemoteDev.Proofs.Field.Exact
import RemoteDev.Proofs.Text.Utf8

/-! What may stand around a number. A number is taken where white space, a numeral and white space
stand in UTF-8 before the first colon, and nowhere else. The white space may be any of Unicode, not
only that of ASCII. -/
namespace RemoteDev

namespace Text

theorem IsNumeral.isBlank_eq_false {cs : List Char} {n : Int} (h : IsNumeral cs n) {c : Char}
    (hc : c ∈ cs) : isBlank c = false := by
  rcases h.mem hc with rfl | rfl | hdigit
  · decide
  · decide
  · exact isBlank_of_isDigit hdigit

theorem forall_mem_utf8EncodeChar_lt {c : Char} :
    (∀ b ∈ String.utf8EncodeChar c, b.toNat < 0x80) ↔ c.toNat < 0x80 := by
  have hc : c.toNat = c.val.toNat := rfl
  rw [hc, String.utf8EncodeChar]
  generalize c.val.toNat = v
  split_ifs <;> simp <;> omega

theorem forall_mem_encodeText_lt {text : String} :
    (∀ b ∈ encodeText text, b.toNat < 0x80) ↔ ∀ c ∈ text.toList, c.toNat < 0x80 := by
  simp only [encodeText, List.forall_mem_flatMap, forall_mem_utf8EncodeChar_lt]

end Text

namespace FieldReader

open Text (isBlank)

/-- A byte string that is the UTF-8 of a word with characters of some kind on either side. -/
inductive IsPadded (padding : Char → Prop) : Bytes → Int → Prop
  | intro {before word after : String} {n : Int} (hbefore : ∀ c ∈ before.toList, padding c)
      (hword : Text.IsWord word.toList n) (hafter : ∀ c ∈ after.toList, padding c) :
      IsPadded padding (encodeText (before ++ word ++ after)) n

def IsSpace (c : Char) : Prop := isBlank c = true

def IsPlainSpace (c : Char) : Prop := IsSpace c ∧ c.toNat < 0x80

variable {digits : Bytes} {n : Int}

theorem replacement_notMem {before word after : List Char} (hbefore : ∀ c ∈ before, IsSpace c)
    (hword : Text.IsWord word n) (hafter : ∀ c ∈ after, IsSpace c) :
    Text.replacement ∉ before ++ (word ++ after) := by
  have hspace : ¬ IsSpace Text.replacement := ne_true_of_eq_false (by decide)
  rw [List.mem_append, List.mem_append]
  rintro (h | h | h)
  · exact hspace (hbefore _ h)
  · rcases hword.1.mem h with h | h | h <;> exact absurd h (by decide)
  · exact hspace (hafter _ h)

theorem shows_iff_isPadded : Shows digits n ↔ IsPadded IsSpace digits n := by
  constructor
  · intro h
    obtain ⟨before, after, hshown, hbefore, hafter⟩ :=
      Text.exists_eq_append_trim (Text.decodeLossy digits)
    have hnone : Text.replacement ∉ Text.decodeLossy digits :=
      hshown ▸ replacement_notMem hbefore h hafter
    have hdigits : encodeText (String.ofList before ++
        String.ofList (Text.trim (Text.decodeLossy digits)) ++ String.ofList after) = digits := by
      rw [encodeText, String.toList_append, String.toList_append, String.toList_ofList,
        String.toList_ofList, String.toList_ofList, List.append_assoc, ← hshown,
        Text.flatMap_decodeLossy hnone]
    rw [← hdigits]
    exact .intro (by rwa [String.toList_ofList]) (by rwa [String.toList_ofList])
      (by rwa [String.toList_ofList])
  · rintro ⟨hbefore, hword, hafter⟩
    rw [Shows, Text.decodeLossy_encodeText, String.toList_append, String.toList_append,
      List.append_assoc,
      Text.trim_append hbefore (fun c hc => hword.1.isBlank_eq_false hc) hafter]
    exact hword

/-- Padding of ASCII alone is what is left of all padding where every byte is of ASCII. -/
theorem isPadded_isPlainSpace_iff :
    IsPadded IsPlainSpace digits n ↔
      IsPadded IsSpace digits n ∧ ∀ b ∈ digits, b.toNat < 0x80 := by
  constructor
  · rintro ⟨hbefore, hword, hafter⟩
    refine ⟨.intro (fun c hc => (hbefore c hc).1) hword fun c hc => (hafter c hc).1,
      Text.forall_mem_encodeText_lt.2 fun c hc => ?_⟩
    rw [String.toList_append, String.toList_append, List.mem_append, List.mem_append] at hc
    rcases hc with (hc | hc) | hc
    · exact (hbefore c hc).2
    · rcases hword.1.mem hc with rfl | rfl | hdigit
      · decide
      · decide
      · have hcode := (Text.isDigit_iff_toNat c).1 hdigit
        omega
    · exact (hafter c hc).2
  · rintro ⟨⟨hbefore, hword, hafter⟩, hplain⟩
    have hchar := Text.forall_mem_encodeText_lt.1 hplain
    simp only [String.toList_append, List.mem_append] at hchar
    exact .intro (fun c hc => ⟨hbefore c hc, hchar c (.inl (.inl hc))⟩) hword
      fun c hc => ⟨hafter c hc, hchar c (.inr hc)⟩

/-- Bytes without a colon have no end of a number in them. Where a colon follows, they decide: they
are taken if they are a word in white space, whatever comes after, and shown in the error if they
are not. White space of ASCII alone is what is left of it where all of them are of ASCII. -/
theorem number_takes_padded (digits : Bytes) (hcolon : colon ∉ digits) :
    number.run digits = .error .unterminatedNumber ∧
    (∀ rest n after, number.run (digits ++ colon :: rest) = .ok (n, after) ↔
      IsPadded IsSpace digits n ∧ after = rest) ∧
    (∀ rest, (∀ n, ¬ IsPadded IsSpace digits n) →
      number.run (digits ++ colon :: rest) = .error (.invalidNumber (Text.lossy digits))) ∧
    ∀ n, IsPadded IsPlainSpace digits n ↔
      IsPadded IsSpace digits n ∧ ∀ b ∈ digits, b.toNat < 0x80 := by
  refine ⟨number_eq_unterminated hcolon, ?_, ?_, fun _ => isPadded_isPlainSpace_iff⟩
  · intro rest n after
    rw [number_eq_ok, splitColon_append hcolon, ← shows_iff_isPadded]
    constructor
    · rintro ⟨_, hsplit, hn⟩
      cases hsplit
      exact ⟨numeral_eq_ok_iff.1 hn, rfl⟩
    · rintro ⟨hn, rfl⟩
      exact ⟨digits, rfl, numeral_eq_ok_iff.2 hn⟩
  · intro rest h
    have hinvalid := numeral_of_not_isWord fun n hn => h n (shows_iff_isPadded.1 hn)
    rw [StateT.run, number_append hcolon, hinvalid]

/-- A sign, leading zeros and a line end, between an em space and a tab. -/
theorem number_takes_padded_of_em_space :
    let digits := encodeText "\u2003\r\n-007\t"
    colon ∉ digits ∧ number.run (digits ++ colon :: [255]) = .ok (-7, [255]) := by
  intro digits
  have hcolon : colon ∉ digits := by decide
  have hpadded : IsPadded IsSpace digits (-7) :=
    @IsPadded.intro IsSpace "\u2003\r\n" "-007" "\t" _ (List.all_eq_true.1 (by decide))
      (Text.word?_eq_some_iff.1 (by decide)) (List.all_eq_true.1 (by decide))
  obtain ⟨-, htakes, -, -⟩ := number_takes_padded digits hcolon
  exact ⟨hcolon, (htakes [255] (-7) [255]).2 ⟨hpadded, rfl⟩⟩

/-- A number is taken with a no-break space in front, which is white space but not of ASCII. -/
theorem number_takes_no_break_space :
    let digits := encodeText "\u00A05"
    colon ∉ digits ∧
      number.run (digits ++ colon :: encodeText "hello") = .ok (5, encodeText "hello") ∧
      ∀ n, ¬ IsPadded IsPlainSpace digits n := by
  intro digits
  refine ⟨by decide, rfl, fun n h => ?_⟩
  have hplain := (isPadded_isPlainSpace_iff.1 h).2
  exact absurd (hplain 0xC2 (by decide)) (by decide)

end FieldReader
end RemoteDev
