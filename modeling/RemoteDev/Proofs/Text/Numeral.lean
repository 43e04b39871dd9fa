import Mathlib
import RemoteDev.Text.Basic

/-! Numerals are read back from the digits that a count is written with. -/
namespace RemoteDev.Text

theorem isDigit_iff_toNat (c : Char) : c.isDigit = true ↔ 48 ≤ c.toNat ∧ c.toNat ≤ 57 := by
  simp [Char.isDigit, UInt32.le_iff_toNat_le]

def isVisible (c : Char) : Bool := 0x20 ≤ c.toNat && c.toNat < 0x7F

theorem isVisible_of_isDigit {c : Char} (h : c.isDigit = true) : isVisible c = true := by
  have hc := (isDigit_iff_toNat c).1 h
  simp only [isVisible, Bool.and_eq_true, decide_eq_true_eq]
  omega

theorem digitValue?_of_isDigit {c : Char} (h : c.isDigit = true) :
    digitValue? 10 c = some (c.toNat - '0'.toNat) := by
  have hc := (isDigit_iff_toNat c).1 h
  have hzero : '0'.toNat = 48 := rfl
  simp only [digitValue?, hc, decide_true, Bool.and_self, if_true, hzero, Option.filter_some]
  rw [if_pos (by simp; omega)]

theorem digitsValue?_of_isDigit {cs : List Char} (h : ∀ c ∈ cs, c.isDigit = true) (acc : Nat) :
    digitsValue? 10 acc cs = some (Nat.ofDigitChars 10 cs acc) := by
  induction cs generalizing acc with
  | nil => simp [digitsValue?]
  | cons c r ih =>
    rw [digitsValue?, digitValue?_of_isDigit (h c (by simp)), Option.bind_some,
      ih fun d hd => h d (by simp [hd]), Nat.ofDigitChars_cons, Nat.mul_comm]

theorem isDigit_of_digitValue? {c : Char} {d : Nat} (h : digitValue? 10 c = some d) :
    c.isDigit = true := by
  obtain ⟨hvalue, hlow⟩ := Option.filter_eq_some_iff.1 h
  rw [decide_eq_true_eq] at hlow
  rw [isDigit_iff_toNat]
  split_ifs at hvalue with hdigit hsmall hlarge
  · simpa using hdigit
  · simp only [Bool.and_eq_true, decide_eq_true_eq, Option.some.injEq] at hsmall hvalue
    omega
  · simp only [Bool.and_eq_true, decide_eq_true_eq, Option.some.injEq] at hlarge hvalue
    omega

theorem digitsValue?_eq_some_iff {cs : List Char} {acc n : Nat} :
    digitsValue? 10 acc cs = some n ↔
      (∀ c ∈ cs, c.isDigit = true) ∧ Nat.ofDigitChars 10 cs acc = n := by
  constructor
  · intro h
    have hdigits : ∀ c ∈ cs, c.isDigit = true := by
      induction cs generalizing acc with
      | nil => exact nofun
      | cons c r ih =>
        obtain ⟨d, hd, hrest⟩ := Option.bind_eq_some_iff.1 h
        exact List.forall_mem_cons.2 ⟨isDigit_of_digitValue? hd, ih hrest⟩
    rw [digitsValue?_of_isDigit hdigits, Option.some.injEq] at h
    exact ⟨hdigits, h⟩
  · rintro ⟨hdigits, rfl⟩
    exact digitsValue?_of_isDigit hdigits acc

theorem unsigned?_eq_some_iff {cs : List Char} {n : Nat} :
    unsigned? 10 cs = some n ↔
      cs ≠ [] ∧ (∀ c ∈ cs, c.isDigit = true) ∧ Nat.ofDigitChars 10 cs 0 = n := by
  cases cs with
  | nil => simp [unsigned?]
  | cons c r => simp [unsigned?, digitsValue?_eq_some_iff]

/-- Digits with or without a sign in front, and the number that they show. -/
inductive IsNumeral : List Char → Int → Prop
  | plain {digits : List Char} (hne : digits ≠ []) (hdigits : ∀ c ∈ digits, c.isDigit = true) :
      IsNumeral digits (Nat.ofDigitChars 10 digits 0)
  | plus {digits : List Char} (hne : digits ≠ []) (hdigits : ∀ c ∈ digits, c.isDigit = true) :
      IsNumeral ('+' :: digits) (Nat.ofDigitChars 10 digits 0)
  | minus {digits : List Char} (hne : digits ≠ []) (hdigits : ∀ c ∈ digits, c.isDigit = true) :
      IsNumeral ('-' :: digits) (-(Nat.ofDigitChars 10 digits 0 : Nat))

def IsWord (cs : List Char) (n : Int) : Prop := IsNumeral cs n ∧ -2 ^ 63 ≤ n ∧ n < 2 ^ 63

theorem integer?_minus (cs : List Char) :
    integer? ('-' :: cs) = (unsigned? 10 cs).map fun n : Nat => -(n : Int) := by
  rw [integer?]
  cases unsigned? 10 cs <;> rfl

theorem integer?_plus (cs : List Char) :
    integer? ('+' :: cs) = (unsigned? 10 cs).map fun n : Nat => (n : Int) := by
  rw [integer?]
  cases unsigned? 10 cs <;> rfl

theorem integer?_plain {cs : List Char} (hminus : ∀ r, cs ≠ '-' :: r) (hplus : ∀ r, cs ≠ '+' :: r) :
    integer? cs = (unsigned? 10 cs).map fun n : Nat => (n : Int) := by
  rw [integer?]
  · cases unsigned? 10 cs <;> rfl
  · exact hminus
  · exact hplus

theorem integer?_eq_some_iff {cs : List Char} {n : Int} :
    integer? cs = some n ↔ IsNumeral cs n := by
  constructor
  · intro h
    by_cases hminus : ∃ r, cs = '-' :: r
    · obtain ⟨r, rfl⟩ := hminus
      rw [integer?_minus] at h
      obtain ⟨m, hm, rfl⟩ := Option.map_eq_some_iff.1 h
      obtain ⟨hne, hdigits, rfl⟩ := unsigned?_eq_some_iff.1 hm
      exact .minus hne hdigits
    by_cases hplus : ∃ r, cs = '+' :: r
    · obtain ⟨r, rfl⟩ := hplus
      rw [integer?_plus] at h
      obtain ⟨m, hm, rfl⟩ := Option.map_eq_some_iff.1 h
      obtain ⟨hne, hdigits, rfl⟩ := unsigned?_eq_some_iff.1 hm
      exact .plus hne hdigits
    · rw [integer?_plain (not_exists.1 hminus) (not_exists.1 hplus)] at h
      obtain ⟨m, hm, rfl⟩ := Option.map_eq_some_iff.1 h
      obtain ⟨hne, hdigits, rfl⟩ := unsigned?_eq_some_iff.1 hm
      exact .plain hne hdigits
  · intro h
    cases h with
    | plain hne hdigits =>
      have hsign {c : Char} (hc : c.isDigit = false) (r : List Char) : cs ≠ c :: r := by
        rintro rfl
        exact Bool.false_ne_true (hc.symm.trans (hdigits c List.mem_cons_self))
      rw [integer?_plain (hsign rfl) (hsign rfl), unsigned?_eq_some_iff.2 ⟨hne, hdigits, rfl⟩,
        Option.map_some]
    | plus hne hdigits =>
      rw [integer?_plus, unsigned?_eq_some_iff.2 ⟨hne, hdigits, rfl⟩, Option.map_some]
    | minus hne hdigits =>
      rw [integer?_minus, unsigned?_eq_some_iff.2 ⟨hne, hdigits, rfl⟩, Option.map_some]

theorem word?_eq_some_iff {cs : List Char} {n : Int} : word? cs = some n ↔ IsWord cs n := by
  rw [word?, Option.filter_eq_some_iff, integer?_eq_some_iff, IsWord, inWordRange,
    Bool.and_eq_true, decide_eq_true_eq, decide_eq_true_eq]
  norm_num

theorem IsWord.unique {cs : List Char} {m n : Int} (hm : IsWord cs m) (hn : IsWord cs n) : m = n :=
  Option.some.inj ((word?_eq_some_iff.2 hm).symm.trans (word?_eq_some_iff.2 hn))

theorem IsNumeral.mem {cs : List Char} {n : Int} (h : IsNumeral cs n) {c : Char} (hc : c ∈ cs) :
    c = '+' ∨ c = '-' ∨ c.isDigit = true := by
  cases h with
  | plain _ hdigits => exact .inr (.inr (hdigits c hc))
  | plus _ hdigits =>
    rcases List.mem_cons.1 hc with hsign | hmem
    · exact .inl hsign
    · exact .inr (.inr (hdigits c hmem))
  | minus _ hdigits =>
    rcases List.mem_cons.1 hc with hsign | hmem
    · exact .inr (.inl hsign)
    · exact .inr (.inr (hdigits c hmem))

theorem isDigit_of_mem_toDigits {n : Nat} {c : Char} (h : c ∈ Nat.toDigits 10 n) :
    c.isDigit = true :=
  Nat.isDigit_of_mem_toDigits (by decide) (by decide) h

theorem all_isVisible_toDigits (n : Nat) : (Nat.toDigits 10 n).all isVisible = true :=
  List.all_eq_true.2 fun _ hc => isVisible_of_isDigit (isDigit_of_mem_toDigits hc)

theorem unsigned?_toDigits (n : Nat) : unsigned? 10 (Nat.toDigits 10 n) = some n := by
  have h := digitsValue?_of_isDigit (fun c => isDigit_of_mem_toDigits (n := n) (c := c)) 0
  rw [Nat.ofDigitChars_ten_toDigits] at h
  cases hs : Nat.toDigits 10 n with
  | nil => exact absurd hs Nat.toDigits_ne_nil
  | cons c r => rwa [unsigned?, ← hs]

theorem integer?_toDigits (n : Nat) : integer? (Nat.toDigits 10 n) = some (n : Int) := by
  have hunsigned := unsigned?_toDigits n
  have hdigit := fun c => isDigit_of_mem_toDigits (n := n) (c := c)
  unfold integer?
  split
  case h_1 r h => exact absurd (hdigit '-' (by simp [h])) (by decide)
  case h_2 r h => exact absurd (hdigit '+' (by simp [h])) (by decide)
  case h_3 => rw [hunsigned]; rfl

theorem decimalText_inj {m n : Nat} : decimalText m = decimalText n ↔ m = n := by
  constructor
  · intro h
    have hread := congrArg (fun t : String => unsigned? 10 t.toList) h
    simpa only [decimalText, String.toList_ofList, unsigned?_toDigits, Option.some.injEq]
      using hread
  · rintro rfl
    rfl

theorem integer?_signedText (n : Int) : integer? (signedText n).toList = some n := by
  unfold signedText
  split
  case isTrue hneg =>
    have hsign : ("-" ++ decimalText n.natAbs).toList = '-' :: Nat.toDigits 10 n.natAbs := by
      rw [String.toList_append, decimalText, String.toList_ofList, String.toList_ofList]
      rfl
    have habs : -(n.natAbs : Int) = n := by omega
    rw [hsign, integer?, unsigned?_toDigits]
    exact congrArg some habs
  case isFalse hneg =>
    rw [decimalText, String.toList_ofList, integer?_toDigits, Option.some.injEq]
    omega

theorem signedText_natCast (n : Nat) : signedText (n : Int) = decimalText n := by
  rw [signedText, if_neg (by omega), Int.natAbs_natCast]

theorem signedText_inj {m n : Int} : signedText m = signedText n ↔ m = n := by
  constructor
  · intro h
    have hread := congrArg (fun t : String => integer? t.toList) h
    simpa only [integer?_signedText, Option.some.injEq] using hread
  · rintro rfl
    rfl

theorem isBlank_of_isDigit {c : Char} (h : c.isDigit = true) : isBlank c = false := by
  have hc := (isDigit_iff_toNat c).1 h
  simp only [isBlank, Bool.or_eq_false_iff, Bool.and_eq_false_iff, decide_eq_false_iff_not,
    beq_eq_false_iff_ne]
  omega

theorem dropWhile_of_not_isBlank {cs : List Char} (h : ∀ c ∈ cs, isBlank c = false) :
    cs.dropWhile isBlank = cs := by
  cases cs with
  | nil => rfl
  | cons c r => rw [List.dropWhile_cons_of_neg (by simp [h c (by simp)])]

theorem trim_of_not_isBlank {cs : List Char} (h : ∀ c ∈ cs, isBlank c = false) :
    trim cs = cs := by
  rw [trim, dropWhile_of_not_isBlank h,
    dropWhile_of_not_isBlank fun c hc => h c (List.mem_reverse.1 hc), List.reverse_reverse]

theorem trim_append {before cs after : List Char} (hbefore : ∀ c ∈ before, isBlank c = true)
    (hcs : ∀ c ∈ cs, isBlank c = false) (hafter : ∀ c ∈ after, isBlank c = true) :
    trim (before ++ (cs ++ after)) = cs := by
  rw [trim, List.dropWhile_append_of_pos hbefore]
  cases cs with
  | nil =>
    rw [List.nil_append, List.dropWhile_eq_nil_iff.2 hafter]
    rfl
  | cons c r =>
    rw [List.cons_append, List.dropWhile_cons_of_neg (by simp [hcs c List.mem_cons_self]),
      ← List.cons_append, List.reverse_append,
      List.dropWhile_append_of_pos fun d hd => hafter d (List.mem_reverse.1 hd),
      dropWhile_of_not_isBlank fun d hd => hcs d (List.mem_reverse.1 hd), List.reverse_reverse]

theorem exists_eq_append_trim (cs : List Char) :
    ∃ before after, cs = before ++ (trim cs ++ after) ∧ (∀ c ∈ before, isBlank c = true) ∧
      ∀ c ∈ after, isBlank c = true := by
  refine ⟨cs.takeWhile isBlank,
    ((cs.dropWhile isBlank).reverse.takeWhile isBlank).reverse, ?_, ?_, ?_⟩
  · rw [trim, ← List.reverse_append, List.takeWhile_append_dropWhile, List.reverse_reverse,
      List.takeWhile_append_dropWhile]
  · exact fun c hc => List.mem_takeWhile_imp hc
  · exact fun c hc => List.mem_takeWhile_imp (List.mem_reverse.1 hc)

theorem trim_toDigits (n : Nat) : trim (Nat.toDigits 10 n) = Nat.toDigits 10 n :=
  trim_of_not_isBlank fun _ h => isBlank_of_isDigit (isDigit_of_mem_toDigits h)

theorem mem_signedText {n : Int} {c : Char} (h : c ∈ (signedText n).toList) :
    c = '-' ∨ c.isDigit = true := by
  unfold signedText at h
  split at h
  case isTrue =>
    rw [String.toList_append, List.mem_append] at h
    rcases h with hsign | hdigit
    · exact .inl (List.mem_singleton.1 hsign)
    · rw [decimalText, String.toList_ofList] at hdigit
      exact .inr (isDigit_of_mem_toDigits hdigit)
  case isFalse =>
    rw [decimalText, String.toList_ofList] at h
    exact .inr (isDigit_of_mem_toDigits h)

theorem trim_signedText (n : Int) : trim (signedText n).toList = (signedText n).toList := by
  refine trim_of_not_isBlank fun c hc => ?_
  rcases mem_signedText hc with rfl | hdigit
  · decide
  · exact isBlank_of_isDigit hdigit

theorem word?_signedText {n : Int} (h : inWordRange n = true) :
    word? (signedText n).toList = some n := by
  rw [word?, integer?_signedText, Option.filter_some, if_pos h]

end RemoteDev.Text
