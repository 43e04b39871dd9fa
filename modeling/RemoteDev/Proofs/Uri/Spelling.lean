import Mathlib
import RemoteDev.Proofs.Text.Utf8
import RemoteDev.Proofs.Uri.Percent

/-! Writing texts with percent escapes. Some characters are kept, and every other byte is written by
a percent sign and two hexadecimal digits in either case. What is written so is read as the same
text. -/
namespace RemoteDev.Percent

def isUnreserved (c : Char) : Bool := c.isAlphanum || ['-', '.', '_', '~'].contains c

def isKeptInPath (c : Char) : Bool := c == '/' || isUnreserved c

def isSpelled (c : Char) : Bool := c == '%' || isUnreserved c

/-- A byte string and a text for it. -/
inductive Spells (keeps : Char → Bool) : Bytes → List Char → Prop
  | nil : Spells keeps [] []
  | keep {b : UInt8} {r : Bytes} {cs : List Char} (hb : keeps (Char.ofNat b.toNat) = true)
      (hr : Spells keeps r cs) : Spells keeps (b :: r) (Char.ofNat b.toNat :: cs)
  | escape {b : UInt8} {r : Bytes} {high low : Char} {i j : ℕ} {cs : List Char}
      (hb : keeps (Char.ofNat b.toNat) = false) (hhigh : IsHexDigit high.toNat i)
      (hlow : IsHexDigit low.toNat j) (hvalue : b.toNat = 16 * i + j) (hr : Spells keeps r cs) :
      Spells keeps (b :: r) ('%' :: high :: low :: cs)

theorem isAlphanum_iff {c : Char} :
    c.isAlphanum = true ↔
      (65 ≤ c.toNat ∧ c.toNat ≤ 90 ∨ 97 ≤ c.toNat ∧ c.toNat ≤ 122) ∨
        48 ≤ c.toNat ∧ c.toNat ≤ 57 := by
  have hc : c.toNat = c.val.toNat := rfl
  rw [hc]
  simp [Char.isAlphanum, Char.isAlpha, Char.isUpper, Char.isLower, Char.isDigit,
    UInt32.le_iff_toNat_le]

theorem isAlphanum_of_isHexDigit {c : Char} {i : ℕ} (h : IsHexDigit c.toNat i) :
    c.isAlphanum = true := by
  unfold IsHexDigit at h
  rw [isAlphanum_iff]
  omega

theorem isSpelled_cases {c : Char} (h : isSpelled c = true) :
    c.isAlphanum = true ∨ c ∈ ['%', '-', '.', '_', '~'] := by
  simp only [isSpelled, isUnreserved, Bool.or_eq_true, beq_iff_eq, List.contains_iff_mem] at h
  rcases h with rfl | h | h
  · exact .inr List.mem_cons_self
  · exact .inl h
  · exact .inr (List.mem_cons_of_mem _ h)

theorem toNat_of_isSpelled {c : Char} (h : isSpelled c = true) :
    0x20 < c.toNat ∧ c.toNat < 0x7F := by
  rcases isSpelled_cases h with h | h
  · rw [isAlphanum_iff] at h
    omega
  · have hmarks : ['%', '-', '.', '_', '~'].all
        (fun c => 0x20 < c.toNat && c.toNat < 0x7F) = true := by decide
    simpa using List.all_eq_true.1 hmarks c h

theorem isSpelled_of_isUnreserved {c : Char} (h : isUnreserved c = true) : isSpelled c = true := by
  rw [isSpelled, h, Bool.or_true]

/-- No character that has a meaning in addresses is spelled with. -/
theorem ne_of_isSpelled {c d : Char} (h : isSpelled c = true) (hd : isSpelled d = false) :
    c ≠ d := by
  rintro rfl
  exact Bool.false_ne_true (hd.symm.trans h)

theorem isUnreserved_spec {c : Char} (h : isUnreserved c = true) : c.toNat < 0x80 ∧ c ≠ '%' := by
  have hcode := toNat_of_isSpelled (isSpelled_of_isUnreserved h)
  refine ⟨by omega, ?_⟩
  rintro rfl
  exact absurd h (by decide)

theorem isKeptInPath_spec {c : Char} (h : isKeptInPath c = true) : c.toNat < 0x80 ∧ c ≠ '%' := by
  rw [isKeptInPath, Bool.or_eq_true, beq_iff_eq] at h
  rcases h with rfl | h
  · decide
  · exact isUnreserved_spec h

section Spells

variable {keeps : Char → Bool} {bs : Bytes} {cs : List Char}

theorem Spells.mem (h : Spells keeps bs cs) {c : Char} (hc : c ∈ cs) :
    (keeps c = true ∧ ∃ b ∈ bs, Char.ofNat b.toNat = c) ∨ isSpelled c = true := by
  have hhex {d : Char} {i : ℕ} (hd : IsHexDigit d.toNat i) : isSpelled d = true := by
    rw [isSpelled, isUnreserved, isAlphanum_of_isHexDigit hd, Bool.true_or, Bool.or_true]
  have hmore {b : UInt8} {r : Bytes}
      (h : (keeps c = true ∧ ∃ b ∈ r, Char.ofNat b.toNat = c) ∨ isSpelled c = true) :
      (keeps c = true ∧ ∃ b' ∈ b :: r, Char.ofNat b'.toNat = c) ∨ isSpelled c = true :=
    h.imp_left fun ⟨hkeeps, b', hb', heq⟩ => ⟨hkeeps, b', List.mem_cons_of_mem _ hb', heq⟩
  induction h with
  | nil => cases hc
  | @keep b r cs hb _ ih =>
    rcases List.mem_cons.1 hc with rfl | hc
    · exact .inl ⟨hb, b, List.mem_cons_self, rfl⟩
    · exact hmore (ih hc)
  | escape _ hhigh hlow _ _ ih =>
    simp only [List.mem_cons] at hc
    rcases hc with rfl | rfl | rfl | hc
    · exact .inr (by decide)
    · exact .inr (hhex hhigh)
    · exact .inr (hhex hlow)
    · exact hmore (ih hc)

theorem utf8EncodeChar_of_lt {c : Char} (h : c.toNat < 0x80) :
    String.utf8EncodeChar c = [UInt8.ofNat c.toNat] := by
  have hc : c.val.toNat ≤ 0x7F := Nat.le_of_lt_succ h
  rw [String.utf8EncodeChar, if_pos hc]
  rfl

theorem encodeText_cons {c : Char} (h : c.toNat < 0x80) (cs : List Char) :
    encodeText (String.ofList (c :: cs)) =
      UInt8.ofNat c.toNat :: encodeText (String.ofList cs) := by
  rw [encodeText, encodeText, String.toList_ofList, String.toList_ofList, List.flatMap_cons,
    utf8EncodeChar_of_lt h, List.singleton_append]

theorem Spells.decode_eq (h : Spells keeps bs cs)
    (hkeeps : ∀ c, keeps c = true → c.toNat < 0x80 ∧ c ≠ '%') :
    decode (encodeText (String.ofList cs)) = bs := by
  induction h with
  | nil => rfl
  | @keep b r cs hb _ ih =>
    obtain ⟨hlow, hsign⟩ := hkeeps _ hb
    have hbyte : UInt8.ofNat (Char.ofNat b.toNat).toNat = b := by
      rw [toNat_ofNat_toNat, UInt8.ofNat_toNat]
    have hne : b ≠ sign := fun h => hsign (h ▸ rfl)
    rw [encodeText_cons hlow, hbyte, decode_cons hne, ih]
  | @escape b r high low i j cs _ hhigh hlow hvalue _ ih =>
    have hcode {c : Char} {i : ℕ} (hc : IsHexDigit c.toNat i) : c.toNat < 0x80 := by
      unfold IsHexDigit at hc
      omega
    have hbyte {c : Char} {i : ℕ} (hc : IsHexDigit c.toNat i) :
        IsHexDigit (UInt8.ofNat c.toNat).toNat i := by
      rwa [UInt8.toNat_ofNat', Nat.mod_eq_of_lt (by have := hcode hc; omega)]
    have hpair : IsPair [sign, UInt8.ofNat high.toNat, UInt8.ofNat low.toNat] b :=
      isPair_iff.2 ⟨i, j, hbyte hhigh, hbyte hlow, by rw [← hvalue, UInt8.ofNat_toNat]⟩
    rw [encodeText_cons (by decide), encodeText_cons (hcode hhigh), encodeText_cons (hcode hlow)]
    exact (decode_escape (escaped?_eq_some_iff.2 (.inl hpair)) _).trans (by rw [ih])

theorem Spells.decodeText_eq {text : String} (h : Spells keeps (encodeText text) cs)
    (hkeeps : ∀ c, keeps c = true → c.toNat < 0x80 ∧ c ≠ '%') : decodeText cs = text := by
  rw [decodeText, h.decode_eq hkeeps, Text.lossy_encodeText]

end Spells

def spell (keeps : Char → Bool) (bs : Bytes) : List Char :=
  bs.flatMap fun b => if keeps (Char.ofNat b.toNat) then [Char.ofNat b.toNat] else escape b

theorem isHexDigit_toUpper_hexDigit {n : ℕ} (hn : n < 16) :
    IsHexDigit (hexDigit n).toUpper.toNat n := by
  have hall : ∀ n < 16, (hexDigit n).toUpper.toNat = if n < 10 then 48 + n else 55 + n := by decide
  have hcode := hall n hn
  unfold IsHexDigit
  split at hcode <;> omega

theorem spells_spell (keeps : Char → Bool) (bs : Bytes) : Spells keeps bs (spell keeps bs) := by
  induction bs with
  | nil => exact .nil
  | cons b r ih =>
    rw [spell, List.flatMap_cons]
    by_cases hb : keeps (Char.ofNat b.toNat) = true
    · rw [if_pos hb]
      exact .keep hb ih
    · have hbyte := b.toNat_lt
      rw [if_neg hb]
      exact .escape (Bool.eq_false_iff.2 hb) (isHexDigit_toUpper_hexDigit (by omega))
        (isHexDigit_toUpper_hexDigit (by omega)) (by omega) ih

end RemoteDev.Percent
