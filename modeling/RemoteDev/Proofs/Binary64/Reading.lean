import Mathlib
import RemoteDev.Proofs.Binary64.Figures

/-! Reading the written form of a number in packets. Whatever form it has, it is read as a decimal
of the value that it shows. -/
namespace RemoteDev

namespace Binary64

theorem takeWhile_isDigit {ds tail : List Char} (hds : ∀ c ∈ ds, c.isDigit = true)
    (htail : ∀ c ∈ tail.head?, c.isDigit = false) :
    (ds ++ tail).takeWhile isDigit = ds ∧ (ds ++ tail).dropWhile isDigit = tail :=
  takeWhile_append_of_head? (fun c hc => (isDigit_eq c).trans (hds c hc))
    fun c hc => (isDigit_eq c).trans (htail c hc)

theorem le_ofDigitChars (ds : List Char) (n : ℕ) : n ≤ Nat.ofDigitChars 10 ds n := by
  rw [Nat.ofDigitChars_eq_ofDigitChars_zero]
  have hpos : 1 ≤ 10 ^ ds.length := Nat.pow_pos (by decide)
  exact (Nat.le_mul_of_pos_left n hpos).trans (Nat.le_add_right _ _)

theorem exponentValue_eq {ds : List Char} (h : Nat.ofDigitChars 10 ds 0 < exponentBound) :
    exponentValue ds = Nat.ofDigitChars 10 ds 0 := by
  have hfold (n : ℕ) (hn : Nat.ofDigitChars 10 ds n < exponentBound) :
      ds.foldl (fun n c => if n < exponentBound then n * 10 + (c.toNat - 48) else n) n =
        Nat.ofDigitChars 10 ds n := by
    clear h
    induction ds generalizing n with
    | nil => rw [List.foldl_nil, Nat.ofDigitChars_nil]
    | cons c r ih =>
      have hbelow : n < exponentBound := (le_ofDigitChars (c :: r) n).trans_lt hn
      rw [Nat.ofDigitChars_cons, Nat.mul_comm] at hn ⊢
      rw [List.foldl_cons, if_pos hbelow]
      exact ih _ hn
  exact hfold 0 h

theorem exponent?_of_isExponent {cs : List Char} {X : ℤ} (h : IsExponent cs X)
    (hbound : X.natAbs < exponentBound) : exponent? cs = some X := by
  obtain ⟨ds, rfl, hlength, hdigits, hvalue⟩ := h
  have hne : ds.isEmpty = false := by
    rw [List.isEmpty_eq_false_iff]
    rintro rfl
    cases hlength
  have hall : ds.all isDigit = true :=
    List.all_eq_true.2 fun c hc => (isDigit_eq c).trans (hdigits c hc)
  have hread : exponentValue ds = X.natAbs := by rw [exponentValue_eq (hvalue ▸ hbound), hvalue]
  by_cases hnegative : X < 0
  · simp only [exponent?, if_pos hnegative, hne, hall, hread, Bool.not_true, Bool.or_self,
      Bool.false_eq_true, if_false, if_true]
    congr 1
    omega
  · simp only [exponent?, if_neg hnegative, hne, hall, hread, Bool.not_true, Bool.or_self,
      Bool.false_eq_true, if_false]
    congr 1
    omega

end Binary64

namespace Figures

def digits (f : Figures) : ℕ := Nat.ofDigitChars 10 (Nat.toDigits 10 f.whole ++ f.fraction) 0

theorem value_decimal (f : Figures) (X : ℤ) :
    Decimal.value ⟨f.digits, X - f.fraction.length⟩ = f.value * 10 ^ X := by
  have hpos : (10 : ℚ) ^ f.fraction.length ≠ 0 := by positivity
  rw [Decimal.value, digits, Nat.ofDigitChars_append, Nat.ofDigitChars_ten_toDigits,
    Nat.ofDigitChars_eq_ofDigitChars_zero, value, sub_eq_add_neg, ten_zpow_add, zpow_neg,
    zpow_natCast]
  push_cast
  field_simp

/-- Figures are read with nothing behind them or with an exponent. -/
theorem decimal?_chars (f : Figures) {tail : List Char} {shift : Option ℤ}
    (htail : tail = [] ∧ shift = some 0 ∨ ∃ e, tail = 'e' :: e ∧ shift = Binary64.exponent? e) :
    Binary64.decimal? (f.chars ++ tail) =
      shift.map fun X => ⟨f.digits, X - f.fraction.length⟩ := by
  have hwhole : ∀ c ∈ Nat.toDigits 10 f.whole, c.isDigit = true :=
    fun c => Text.isDigit_of_mem_toDigits
  have hne : (Nat.toDigits 10 f.whole).isEmpty = false := by simp
  have hbehind : ∀ c ∈ tail.head?, c.isDigit = false := by
    rcases htail with ⟨rfl, -⟩ | ⟨e, rfl, -⟩
    · exact nofun
    · rintro c ⟨⟩
      decide
  have hpointed : ∀ c ∈ (Binary64.pointed f.fraction ++ tail).head?, c.isDigit = false := by
    cases f.fraction with
    | nil => exact hbehind
    | cons first r =>
      rintro c ⟨⟩
      decide
  obtain ⟨htake, hdrop⟩ := Binary64.takeWhile_isDigit hwhole hpointed
  obtain ⟨htake', hdrop'⟩ := Binary64.takeWhile_isDigit f.isDigit hbehind
  rw [chars, List.append_assoc]
  simp only [Binary64.decimal?, htake, hdrop, hne, Bool.false_and, Bool.false_eq_true, if_false,
    Binary64.digitsValue_eq, digits]
  cases hfraction : f.fraction with
  | nil =>
    rcases htail with ⟨rfl, rfl⟩ | ⟨e, rfl, rfl⟩
    · rfl
    · rfl
  | cons first r =>
    rw [hfraction] at htake' hdrop'
    simp only [Binary64.pointed, List.cons_append] at htake' hdrop' ⊢
    rw [htake', hdrop']
    rcases htail with ⟨rfl, rfl⟩ | ⟨e, rfl, rfl⟩
    · simp
    · rfl

theorem exists_chars_eq_cons (f : Figures) (tail : List Char) :
    ∃ c r, f.chars ++ tail = c :: r ∧ c.isDigit = true := by
  obtain ⟨c, r, hcons⟩ :=
    List.exists_cons_of_ne_nil (Nat.toDigits_ne_nil (n := f.whole) (b := 10))
  refine ⟨c, r ++ Binary64.pointed f.fraction ++ tail, ?_,
    Text.isDigit_of_mem_toDigits (n := f.whole) (hcons ▸ List.mem_cons_self)⟩
  rw [chars, hcons, List.cons_append, List.cons_append]

end Figures

namespace Binary64

theorem exists_decimal?_packetChars {d : Decimal} (hmod : d.digits % 10 ≠ 0)
    (hbound : d.leading.natAbs < exponentBound) :
    ∃ c r read, d.packetChars = c :: r ∧ c.isDigit = true ∧
      decimal? (c :: r) = some read ∧ read.value = d.value := by
  rcases Decimal.shows_packetChars hmod with ⟨-, f, hchars, hvalue⟩ |
    ⟨-, f, e, -, he, hchars, hvalue⟩
  · have hread := f.decimal?_chars (.inl ⟨rfl, rfl⟩)
    obtain ⟨c, r, hcons, hdigit⟩ := f.exists_chars_eq_cons []
    rw [hcons] at hread
    rw [List.append_nil, ← hchars] at hcons
    exact ⟨c, r, _, hcons, hdigit, hread, by rw [f.value_decimal, zpow_zero, mul_one, hvalue]⟩
  · have hread := f.decimal?_chars (.inr ⟨e, rfl, rfl⟩)
    obtain ⟨c, r, hcons, hdigit⟩ := f.exists_chars_eq_cons ('e' :: e)
    rw [hcons, exponent?_of_isExponent he hbound] at hread
    exact ⟨c, r, _, hchars.trans hcons, hdigit, hread, by rw [f.value_decimal, hvalue]⟩

end Binary64
end RemoteDev
