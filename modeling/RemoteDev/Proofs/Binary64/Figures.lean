import Mathlib
import RemoteDev.Proofs.Binary64.Text

/-! The written form of a number in packets. A finite number other than zero is rounded to sixteen
digits; what is rounded is written with its digits around a point where its leading power of ten is
from `10 ^ -4` to `10 ^ 15`, and with an exponent elsewhere, and the text shows exactly that. -/
namespace RemoteDev

/-- The digits before a point and those behind it, of which the last is not a zero. -/
structure Figures where
  whole : ℕ
  fraction : List Char
  isDigit : ∀ c ∈ fraction, c.isDigit = true
  trimmed : fraction.getLast? ≠ some '0'

namespace Figures

def chars (f : Figures) : List Char := Nat.toDigits 10 f.whole ++ Binary64.pointed f.fraction

def value (f : Figures) : ℚ :=
  f.whole + (Nat.ofDigitChars 10 f.fraction 0 : ℕ) / 10 ^ f.fraction.length

/-- The digits of a number with a point before the last ones. -/
def ofPlaces (places n : ℕ) (h : places = 0 ∨ n % 10 ≠ 0) : Figures where
  whole := n / 10 ^ places
  fraction := Binary64.lastDigits places n
  isDigit _ := Binary64.isDigit_of_mem_lastDigits
  trimmed := by
    rcases h with rfl | h
    · exact nofun
    · exact Binary64.getLast?_lastDigits h

theorem value_ofPlaces (places n : ℕ) (h : places = 0 ∨ n % 10 ≠ 0) :
    (ofPlaces places n h).value = (n : ℚ) / 10 ^ places := by
  have hpos : (10 : ℚ) ^ places ≠ 0 := by positivity
  rw [value, ofPlaces, Binary64.ofDigitChars_lastDigits, Binary64.length_lastDigits,
    eq_div_iff hpos, add_mul, div_mul_cancel₀ _ hpos]
  exact_mod_cast Nat.div_add_mod' n (10 ^ places)

end Figures

def IsExponent (cs : List Char) (X : ℤ) : Prop :=
  ∃ ds, cs = (if X < 0 then '-' else '+') :: ds ∧ 2 ≤ ds.length ∧
    (∀ c ∈ ds, c.isDigit = true) ∧ Nat.ofDigitChars 10 ds 0 = X.natAbs

def IsPositional (cs : List Char) (q : ℚ) : Prop := ∃ f : Figures, cs = f.chars ∧ q = f.value

/-- A text that shows a number by one digit that is not a zero, a fraction if need be, and an
exponent. -/
def IsScientific (cs : List Char) (X : ℤ) (q : ℚ) : Prop :=
  ∃ (f : Figures) (e : List Char), (1 ≤ f.whole ∧ f.whole < 10) ∧ IsExponent e X ∧
    cs = f.chars ++ 'e' :: e ∧ q = f.value * 10 ^ X

theorem isExponent_exponentText (X : ℤ) : IsExponent (NumberStyle.packet.exponentText X) X := by
  refine ⟨List.replicate (2 - (Nat.toDigits 10 X.natAbs).length) '0' ++ Nat.toDigits 10 X.natAbs,
    ?_, ?_, ?_, ?_⟩
  · simp only [NumberStyle.exponentText, NumberStyle.packet, if_true]
    split <;> rfl
  · rw [List.length_append, List.length_replicate]
    omega
  · intro c hc
    rcases List.mem_append.1 hc with hc | hc
    · rw [(List.mem_replicate.1 hc).2]
      decide
    · exact Text.isDigit_of_mem_toDigits hc
  · rw [Nat.ofDigitChars_append, Nat.ofDigitChars_replicate_zero, Nat.mul_zero,
      Nat.ofDigitChars_ten_toDigits]

namespace Decimal

theorem isPositional_positionalChars {d : Decimal} (h : d.digits % 10 ≠ 0) :
    IsPositional d.positionalChars d.value := by
  have hlast : (-d.exponent).toNat = 0 ∨ d.digits * 10 ^ d.exponent.toNat % 10 ≠ 0 := by
    rcases Int.le_total 0 d.exponent with hle | hle
    · exact .inl (by omega)
    · rw [Int.toNat_eq_zero.2 hle, Nat.pow_zero, Nat.mul_one]
      exact .inr h
  refine ⟨.ofPlaces _ _ hlast, rfl, ?_⟩
  rw [Figures.value_ofPlaces, value, eq_div_iff (by positivity), mul_assoc, ← zpow_natCast,
    ← ten_zpow_add]
  push_cast
  rw [← zpow_natCast]
  congr 2
  omega

theorem isScientific_exponentialChars {d : Decimal} (h : d.digits % 10 ≠ 0) :
    IsScientific d.exponentialChars d.leading d.value := by
  obtain ⟨places, hplaces⟩ : ∃ places, places = digitCount d.digits - 1 := ⟨_, rfl⟩
  have hcount := digitCount_pos d.digits
  have hlow : 1 ≤ d.digits / 10 ^ places := by
    rw [Nat.le_div_iff_mul_le (Nat.pow_pos (by decide)), Nat.one_mul, hplaces]
    exact pow_le_of_digitCount (by omega)
  have hhigh : d.digits / 10 ^ places < 10 := by
    rw [Nat.div_lt_iff_lt_mul (Nat.pow_pos (by decide)), ← Nat.pow_succ', hplaces]
    exact Nat.sub_add_cancel hcount ▸ lt_pow_digitCount d.digits
  have hdigits := Binary64.toDigits_eq_append_lastDigits hlow
  have hfirst : (Nat.toDigits 10 (d.digits / 10 ^ places)).length = 1 := by
    rw [Nat.toDigits_of_lt_base hhigh, List.length_singleton]
  refine ⟨.ofPlaces places d.digits (.inr h), _, ⟨hlow, hhigh⟩, isExponent_exponentText _, ?_, ?_⟩
  · rw [exponentialChars, hdigits, List.take_left' hfirst, List.drop_left' hfirst]
    rfl
  · rw [Figures.value_ofPlaces, value, leading, ← hplaces, ten_zpow_add, zpow_natCast]
    field_simp

theorem shows_packetChars {d : Decimal} (h : d.digits % 10 ≠ 0) :
    (-4 ≤ d.leading ∧ d.leading < 16) ∧ IsPositional d.packetChars d.value ∨
      (d.leading < -4 ∨ 16 ≤ d.leading) ∧ IsScientific d.packetChars d.leading d.value := by
  have hstyle : NumberStyle.packet.positional d.leading = true ↔
      -4 ≤ d.leading ∧ d.leading < 16 := by
    simp [NumberStyle.packet]
  by_cases hrange : -4 ≤ d.leading ∧ d.leading < 16
  · rw [packetChars, if_pos (hstyle.2 hrange)]
    exact .inl ⟨hrange, isPositional_positionalChars h⟩
  · rw [packetChars, if_neg (mt hstyle.1 hrange)]
    exact .inr ⟨by omega, isScientific_exponentialChars h⟩

end Decimal

namespace Binary64

/-- The rational number that a finite number is. -/
def value (x : Binary64) : ℚ := (if x.negative then -1 else 1) * x.size

theorem size_pos {x : Binary64} (h : 0 < x.units) : 0 < x.size := by
  have hunits : (0 : ℚ) < x.units := by exact_mod_cast h
  have hone : (0 : ℚ) < unitsPerOne := by exact_mod_cast unitsPerOne_pos
  exact div_pos hunits hone

def shownValue (x : Binary64) : ℚ := (if x.negative then -1 else 1) * x.shown.value

theorem roundsTo_shownValue {x : Binary64} (h : 0 < x.units) :
    RoundsTo 16 x.value x.shownValue := by
  have hrounds := (sixteen_spec h).2.1
  rw [← value_shown] at hrounds
  rw [value, shownValue]
  split
  · rw [neg_one_mul, neg_one_mul]
    exact hrounds.neg
  · rwa [one_mul, one_mul]

theorem abs_shownValue {x : Binary64} (h : 0 < x.units) : |x.shownValue| = x.shown.value := by
  have hpos := Decimal.value_pos (shown_digits_pos h)
  rw [shownValue, abs_mul, abs_of_pos hpos]
  split <;> simp

theorem signChars_eq {x : Binary64} (h : 0 < x.units) :
    x.signChars = if x.value < 0 then ['-'] else [] := by
  have hpos := size_pos h
  rw [signChars, value]
  split
  · rw [if_pos (by linarith)]
  · rw [if_neg (by linarith)]

/-- A finite number other than zero is rounded to sixteen digits, a half to the even neighbour. What
is rounded is shown exactly: after a minus sign for numbers below zero, without an exponent if the
leading power of ten is from `10 ^ -4` to `10 ^ 15`, and with an exponent otherwise. -/
theorem packetText_shows_sixteen_digits {x : Binary64} (hfinite : x.isFinite = true)
    (hzero : x.isZero = false) :
    ∃ (r : ℚ) (X : ℤ) (body : List Char),
      (∀ s, RoundsTo 16 x.value s ↔ s = r) ∧ LeadsAt X r ∧
      x.packetText.toList = (if x.value < 0 then ['-'] else []) ++ body ∧
      ((-4 ≤ X ∧ X < 16) ∧ IsPositional body |r| ∨
        (X < -4 ∨ 16 ≤ X) ∧ IsScientific body X |r|) := by
  have hpos := units_pos hzero
  have hrounds := roundsTo_shownValue hpos
  have hmod := shown_digits_mod hpos
  have hlead := Decimal.leadsAt_leading (shown_digits_pos hpos)
  refine ⟨x.shownValue, x.shown.leading, x.shown.packetChars, ?_, ?_, ?_, ?_⟩
  · exact fun s => ⟨fun hs => hs.unique hrounds, fun hs => hs ▸ hrounds⟩
  · rw [LeadsAt, abs_of_pos (Decimal.value_pos (shown_digits_pos hpos))] at hlead
    rwa [LeadsAt, abs_shownValue hpos]
  · rw [packetText_of_isFinite hfinite hzero, String.toList_ofList, signChars_eq hpos]
  · rw [abs_shownValue hpos]
    exact Decimal.shows_packetChars hmod

/-- A number that is rounded up to a power of ten: the number nearest to a millionth is less. -/
theorem packetText_shows_sixteen_digits_of_carry :
    let x := ofBits 0x3EB0C6F7A0B5ED8D
    x.isFinite = true ∧ x.isZero = false ∧ ∃ (r : ℚ) (X : ℤ) (body : List Char),
      (∀ s, RoundsTo 16 x.value s ↔ s = r) ∧ LeadsAt X r ∧
      x.packetText.toList = (if x.value < 0 then ['-'] else []) ++ body ∧
      ((-4 ≤ X ∧ X < 16) ∧ IsPositional body |r| ∨
        (X < -4 ∨ 16 ≤ X) ∧ IsScientific body X |r|) :=
  ⟨by decide, by decide, packetText_shows_sixteen_digits (by decide) (by decide)⟩

end Binary64
end RemoteDev
