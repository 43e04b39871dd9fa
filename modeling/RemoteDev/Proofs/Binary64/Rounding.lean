import Mathlib
import RemoteDev.Proofs.Binary64.Basic

/-! Rounding to significant digits as a relation of rational numbers: of the multiples of the power
of ten that leaves as many digits before the point, the nearest, and of two the even one. The
relation determines what is rounded, and the decimal of a quotient stands in it. -/
namespace RemoteDev

/-- A whole number nearest to a rational number, and even if another is as near. -/
structure IsNearestWhole (n : ℤ) (q : ℚ) : Prop where
  near : |q - n| ≤ 1 / 2
  even : |q - n| = 1 / 2 → Even n

theorem IsNearestWhole.mono {n m : ℤ} {q p : ℚ} (hn : IsNearestWhole n q)
    (hm : IsNearestWhole m p) (hle : q ≤ p) : n ≤ m := by
  by_contra hlt
  have hnear := abs_le.1 hn.near
  have hnear' := abs_le.1 hm.near
  have hstep : (m : ℚ) + 1 ≤ n := by exact_mod_cast not_le.1 hlt
  have heven : Even n := hn.even ((abs_of_nonpos (by linarith)).trans (by linarith))
  have heven' : Even m := hm.even ((abs_of_nonneg (by linarith)).trans (by linarith))
  have hnext : n = m + 1 := by
    have hle : (n : ℚ) ≤ m + 1 := by linarith
    exact le_antisymm (by exact_mod_cast hle) (not_le.1 hlt)
  exact Int.not_even_iff_odd.2 heven'.add_one (hnext ▸ heven)

theorem IsNearestWhole.unique {n m : ℤ} {q : ℚ} (hn : IsNearestWhole n q)
    (hm : IsNearestWhole m q) : n = m := le_antisymm (hn.mono hm le_rfl) (hm.mono hn le_rfl)

theorem isNearestWhole_of_lt {n : ℤ} {q : ℚ} (hlow : (n : ℚ) - 1 / 2 < q)
    (hhigh : q < n + 1 / 2) : IsNearestWhole n q := by
  have hclose : |q - n| < 1 / 2 := abs_lt.2 ⟨by linarith, by linarith⟩
  exact ⟨hclose.le, fun htie => absurd htie hclose.ne⟩

theorem isNearestWhole_of_even {n : ℤ} {q : ℚ} (hlow : (n : ℚ) - 1 / 2 ≤ q)
    (hhigh : q ≤ n + 1 / 2) (heven : Even n) : IsNearestWhole n q :=
  ⟨abs_le.2 ⟨by linarith, by linarith⟩, fun _ => heven⟩

theorem isNearestWhole_intCast (n : ℤ) : IsNearestWhole n n where
  near := by norm_num
  even h := by norm_num at h

theorem IsNearestWhole.neg {n : ℤ} {q : ℚ} (h : IsNearestWhole n q) : IsNearestWhole (-n) (-q) := by
  have habs : |-q - ((-n : ℤ) : ℚ)| = |q - n| := by
    rw [← abs_neg]
    push_cast
    ring_nf
  exact ⟨habs ▸ h.near, fun heq => (h.even (habs ▸ heq)).neg⟩

/-- A multiple of ten that is nearest is nearest in tens, where no other is as near. -/
theorem IsNearestWhole.of_tens {n : ℤ} {q : ℚ} (h : IsNearestWhole (10 * n) q) :
    IsNearestWhole n (q / 10) := by
  have hnear := abs_le.1 h.near
  push_cast at hnear
  exact isNearestWhole_of_lt (by linarith) (by linarith)

section Unit

variable {n m : ℕ} {v unit : ℚ}

theorem IsNearestWhole.le_of_le_mul (h : IsNearestWhole n (v / unit)) (hunit : 0 < unit)
    (hle : v ≤ m * unit) : n ≤ m := by
  have hscaled : v / unit ≤ (m : ℤ) := (div_le_iff₀ hunit).2 hle
  exact_mod_cast h.mono (isNearestWhole_intCast m) hscaled

theorem IsNearestWhole.le_of_mul_le (h : IsNearestWhole n (v / unit)) (hunit : 0 < unit)
    (hle : m * unit ≤ v) : m ≤ n := by
  have hscaled : ((m : ℤ) : ℚ) ≤ v / unit := (le_div_iff₀ hunit).2 hle
  exact_mod_cast (isNearestWhole_intCast m).mono h hscaled

end Unit

theorem abs_sub_mul_unit {unit : ℚ} (hunit : 0 < unit) (v : ℚ) (n : ℕ) :
    |v - n * unit| = |v / unit - (n : ℤ)| * unit := by
  rw [← abs_of_pos hunit, ← abs_mul, abs_of_pos hunit, sub_mul, div_mul_cancel₀ _ hunit.ne',
    Int.cast_natCast]

namespace Binary64

theorem roundHalfEven_cases (num den : ℕ) :
    roundHalfEven num den = num / den ∧
      (2 * (num % den) < den ∨ 2 * (num % den) = den ∧ num / den % 2 = 0) ∨
    roundHalfEven num den = num / den + 1 ∧
      (den < 2 * (num % den) ∨ 2 * (num % den) = den ∧ num / den % 2 = 1) := by
  simp only [roundHalfEven]
  split
  case isTrue h =>
    simp only [Bool.or_eq_true, decide_eq_true_eq, Bool.and_eq_true, beq_iff_eq] at h
    omega
  case isFalse h =>
    simp only [Bool.or_eq_true, decide_eq_true_eq, Bool.and_eq_true, beq_iff_eq] at h
    omega

theorem remainder_cases (num : ℕ) {den : ℕ} (hden : 0 < den) :
    (0 ≤ ((num % den : ℕ) : ℚ) / den ∧ ((num % den : ℕ) : ℚ) / den < 1) ∧
      (2 * (num % den) < den → ((num % den : ℕ) : ℚ) / den < 1 / 2) ∧
      (2 * (num % den) = den → ((num % den : ℕ) : ℚ) / den = 1 / 2) ∧
      (den < 2 * (num % den) → 1 / 2 < ((num % den : ℕ) : ℚ) / den) := by
  have hpos : (0 : ℚ) < den := by exact_mod_cast hden
  rw [div_lt_one hpos, div_lt_div_iff₀ hpos two_pos, div_eq_div_iff hpos.ne' two_ne_zero,
    div_lt_div_iff₀ two_pos hpos]
  refine ⟨⟨by positivity, by exact_mod_cast Nat.mod_lt num hden⟩, fun h => ?_, fun h => ?_,
    fun h => ?_⟩
  · have : num % den * 2 < 1 * den := by omega
    exact_mod_cast this
  · have : num % den * 2 = 1 * den := by omega
    exact_mod_cast this
  · have : 1 * den < num % den * 2 := by omega
    exact_mod_cast this

theorem isNearestWhole_roundHalfEven (num : ℕ) {den : ℕ} (hden : 0 < den) :
    IsNearestWhole (roundHalfEven num den) (num / den) := by
  have hpos : (0 : ℚ) < den := by exact_mod_cast hden
  have hsplit : (num : ℚ) / den = (num / den : ℕ) + (num % den : ℕ) / den := by
    rw [div_eq_iff hpos.ne', add_mul, div_mul_cancel₀ _ hpos.ne']
    exact_mod_cast (Nat.div_add_mod' num den).symm
  obtain ⟨⟨hnonneg, hone⟩, hbelow, htie, habove⟩ := remainder_cases num hden
  rw [hsplit]
  rcases roundHalfEven_cases num den with ⟨hround, hlt | ⟨heq, heven⟩⟩ | ⟨hround, hlt | ⟨heq, hodd⟩⟩
  · have := hbelow hlt
    refine isNearestWhole_of_lt ?_ ?_ <;> rw [hround, Int.cast_natCast] <;> linarith
  · have := htie heq
    refine isNearestWhole_of_even ?_ ?_ ?_
    · rw [hround, Int.cast_natCast]
      linarith
    · rw [hround, Int.cast_natCast]
      linarith
    · rw [hround, Int.even_coe_nat, Nat.even_iff, heven]
  · have := habove hlt
    refine isNearestWhole_of_lt ?_ ?_ <;>
      rw [hround, Int.cast_natCast, Nat.cast_add, Nat.cast_one] <;> linarith
  · have := htie heq
    refine isNearestWhole_of_even ?_ ?_ ?_
    · rw [hround, Int.cast_natCast, Nat.cast_add, Nat.cast_one]
      linarith
    · rw [hround, Int.cast_natCast, Nat.cast_add, Nat.cast_one]
      linarith
    · rw [hround, Int.even_coe_nat, Nat.even_iff]
      omega

theorem roundHalfEven_eq_iff {num den n : ℕ} (hden : 0 < den) :
    roundHalfEven num den = n ↔ IsNearestWhole n ((num : ℚ) / den) := by
  constructor
  · rintro rfl
    exact isNearestWhole_roundHalfEven num hden
  · intro h
    exact_mod_cast (isNearestWhole_roundHalfEven num hden).unique h

end Binary64

/-- The powers of ten next to the magnitude of a rational number. -/
def LeadsAt (X : ℤ) (v : ℚ) : Prop := 10 ^ X ≤ |v| ∧ |v| < (10 : ℚ) ^ (X + 1)

theorem lt_of_ten_zpow_lt {a b : ℤ} (h : (10 : ℚ) ^ a < 10 ^ b) : a < b :=
  (zpow_lt_zpow_iff_right₀ (by norm_num)).1 h

theorem ten_zpow_le {a b : ℤ} (h : a ≤ b) : (10 : ℚ) ^ a ≤ 10 ^ b :=
  zpow_le_zpow_right₀ (by norm_num) h

theorem ten_zpow_pos (a : ℤ) : (0 : ℚ) < 10 ^ a := zpow_pos (by norm_num) a

theorem ten_zpow_add (a b : ℤ) : (10 : ℚ) ^ (a + b) = 10 ^ a * 10 ^ b := zpow_add₀ (by norm_num) a b

theorem LeadsAt.unique {X Y : ℤ} {v : ℚ} (hX : LeadsAt X v) (hY : LeadsAt Y v) : X = Y := by
  have h₁ := lt_of_ten_zpow_lt (hX.1.trans_lt hY.2)
  have h₂ := lt_of_ten_zpow_lt (hY.1.trans_lt hX.2)
  omega

theorem LeadsAt.scaled {e k : ℤ} {v : ℚ} (h : LeadsAt (e + k) v) : LeadsAt k (v / 10 ^ e) := by
  have hpos := ten_zpow_pos e
  rw [LeadsAt, abs_div, abs_of_pos hpos, le_div_iff₀ hpos, div_lt_iff₀ hpos, ← ten_zpow_add,
    ← ten_zpow_add, add_comm k, add_right_comm, add_comm k]
  exact h

/-- The second number is the first to a count of significant digits: the first has the count of
digits before the point in units of a power of ten, and the second is the nearest multiple. -/
def RoundsTo (count : ℕ) (v r : ℚ) : Prop :=
  ∃ e n : ℤ, LeadsAt (e + count - 1) v ∧ IsNearestWhole n (v / 10 ^ e) ∧ r = n * 10 ^ e

theorem RoundsTo.unique {count : ℕ} {v r s : ℚ} (hr : RoundsTo count v r)
    (hs : RoundsTo count v s) : r = s := by
  obtain ⟨e, n, hlead, hnear, rfl⟩ := hr
  obtain ⟨e', n', hlead', hnear', rfl⟩ := hs
  have heq : e = e' := by
    have := hlead.unique hlead'
    omega
  subst heq
  rw [hnear.unique hnear']

theorem RoundsTo.neg {count : ℕ} {v r : ℚ} (h : RoundsTo count v r) : RoundsTo count (-v) (-r) := by
  obtain ⟨e, n, hlead, hnear, rfl⟩ := h
  refine ⟨e, -n, ?_, ?_, by push_cast; ring⟩
  · rwa [LeadsAt, abs_neg]
  · rw [neg_div]
    exact hnear.neg

/-- Rounding may reach the next power of ten, but neither passes it nor falls below the last. -/
theorem IsNearestWhole.bounds {count n : ℕ} {q : ℚ} (h : IsNearestWhole n q) (hcount : 0 < count)
    (hq : 0 ≤ q) (hlead : LeadsAt (count - 1) q) : 10 ^ (count - 1) ≤ n ∧ n ≤ 10 ^ count := by
  have hcast : ((count : ℤ) - 1) = ((count - 1 : ℕ) : ℤ) := by omega
  rw [LeadsAt, sub_add_cancel, hcast, zpow_natCast, zpow_natCast, abs_of_nonneg hq] at hlead
  have hlow := (isNearestWhole_intCast (10 ^ (count - 1))).mono h (by push_cast; exact hlead.1)
  have hhigh := h.mono (isNearestWhole_intCast (10 ^ count)) (by push_cast; exact hlead.2.le)
  exact ⟨by exact_mod_cast hlow, by exact_mod_cast hhigh⟩

namespace Decimal

def value (d : Decimal) : ℚ := d.digits * 10 ^ d.exponent

/-- A decimal with a digit other than zero in front, and a count of digits. -/
def IsNormal (count : ℕ) (d : Decimal) : Prop :=
  10 ^ (count - 1) ≤ d.digits ∧ d.digits < 10 ^ count

theorem IsNormal.leadsAt {count : ℕ} {d : Decimal} (hcount : 0 < count) (h : IsNormal count d) :
    LeadsAt (d.exponent + count - 1) d.value := by
  have hpos := ten_zpow_pos d.exponent
  have hlow : ((10 : ℚ) ^ ((count : ℤ) - 1)) ≤ d.digits := by
    have hcast : ((count : ℤ) - 1) = ((count - 1 : ℕ) : ℤ) := by omega
    rw [hcast, zpow_natCast]
    exact_mod_cast h.1
  have hhigh : (d.digits : ℚ) < 10 ^ (count : ℤ) := by
    rw [zpow_natCast]
    exact_mod_cast h.2
  rw [LeadsAt, value, abs_of_nonneg (by positivity), add_sub_assoc, add_assoc, sub_add_cancel,
    ten_zpow_add, ten_zpow_add, mul_comm, mul_comm _ ((10 : ℚ) ^ (count : ℤ))]
  exact ⟨mul_le_mul_of_nonneg_right hlow hpos.le, mul_lt_mul_of_pos_right hhigh hpos⟩

theorem IsNormal.eq_of_value {count : ℕ} {d f : Decimal} (hcount : 0 < count)
    (hd : IsNormal count d) (hf : IsNormal count f) (h : d.value = f.value) : d = f := by
  have hexponent : d.exponent = f.exponent := by
    have := (hd.leadsAt hcount).unique (h ▸ hf.leadsAt hcount)
    omega
  rw [value, value, hexponent] at h
  have hdigits := mul_right_cancel₀ (ten_zpow_pos f.exponent).ne' h
  obtain ⟨digits, exponent⟩ := d
  rw [Decimal.mk.injEq]
  exact ⟨by exact_mod_cast hdigits, hexponent⟩

theorem pow_le_of_digitCount {n : ℕ} (hn : 0 < n) : 10 ^ (digitCount n - 1) ≤ n := by
  by_contra hlt
  rcases Nat.eq_zero_or_pos (digitCount n - 1) with hone | hpos
  · rw [hone] at hlt
    omega
  · have := (digitCount_le_iff hpos).2 (Nat.lt_of_not_le hlt)
    have := digitCount_pos n
    omega

theorem leadsAt_of_le {num den : ℕ} (hden : 0 < den) (h : den ≤ num) :
    LeadsAt (digitCount (num / den) - 1) ((num : ℚ) / den) := by
  have hpos : (0 : ℚ) < den := by exact_mod_cast hden
  have hwhole : 0 < num / den := Nat.div_pos h hden
  have hlt := lt_pow_digitCount (num / den)
  have hle := pow_le_of_digitCount hwhole
  have hcount := digitCount_pos (num / den)
  have hcast : (digitCount (num / den) : ℤ) - 1 = ((digitCount (num / den) - 1 : ℕ) : ℤ) := by omega
  rw [LeadsAt, abs_of_nonneg (by positivity), le_div_iff₀ hpos, div_lt_iff₀ hpos, sub_add_cancel,
    hcast, zpow_natCast, zpow_natCast]
  constructor
  · exact_mod_cast (Nat.le_div_iff_mul_le hden).1 hle
  · exact_mod_cast (Nat.div_lt_iff_lt_mul hden).1 hlt

theorem leadsAt_of_lt {num den : ℕ} (hnum : 0 < num) (h : num < den) :
    LeadsAt (-digitCount ((den - 1) / num)) ((num : ℚ) / den) := by
  have hpos : (0 : ℚ) < den := by exact_mod_cast hnum.trans h
  have hwhole : 0 < (den - 1) / num := Nat.div_pos (by omega) hnum
  have hlt := (Nat.div_lt_iff_lt_mul hnum).1 (lt_pow_digitCount ((den - 1) / num))
  have hle := (Nat.le_div_iff_mul_le hnum).1 (pow_le_of_digitCount hwhole)
  generalize (den - 1) / num = m at *
  have hcount := digitCount_pos m
  have hcast : -(digitCount m : ℤ) + 1 = -((digitCount m - 1 : ℕ) : ℤ) := by omega
  rw [LeadsAt, abs_of_nonneg (by positivity), le_div_iff₀ hpos, div_lt_iff₀ hpos, hcast, zpow_neg,
    zpow_neg, zpow_natCast, zpow_natCast, inv_mul_le_iff₀ (by positivity),
    lt_inv_mul_iff₀ (by positivity)]
  constructor
  · have : den ≤ 10 ^ digitCount m * num := by omega
    exact_mod_cast this
  · have : 10 ^ (digitCount m - 1) * num < den := by omega
    exact_mod_cast this

theorem leadsAt_leadingExponent {num den : ℕ} (hnum : 0 < num) (hden : 0 < den) :
    LeadsAt (leadingExponent num den) ((num : ℚ) / den) := by
  rw [leadingExponent]
  split
  case isTrue h => exact leadsAt_of_le hden h
  case isFalse h => exact leadsAt_of_lt hnum (Nat.lt_of_not_le h)

theorem inUnitsOf_spec (num : ℕ) {den : ℕ} (hden : 0 < den) (e : ℤ) :
    0 < (inUnitsOf num den e).2 ∧
      ((inUnitsOf num den e).1 : ℚ) / (inUnitsOf num den e).2 = (num : ℚ) / den / 10 ^ e := by
  simp only [inUnitsOf, Nat.pow_eq]
  split
  case isTrue h =>
    obtain ⟨k, rfl⟩ := Int.eq_ofNat_of_zero_le h
    refine ⟨by positivity, ?_⟩
    rw [Int.toNat_natCast, zpow_natCast]
    push_cast
    exact (div_div _ _ _).symm
  case isFalse h =>
    obtain ⟨k, rfl⟩ : ∃ k : ℕ, e = -k := ⟨(-e).toNat, by omega⟩
    refine ⟨hden, ?_⟩
    rw [neg_neg, Int.toNat_natCast, zpow_neg, zpow_natCast, div_inv_eq_mul]
    push_cast
    ring

/-- A quotient to a count of significant digits. Rounding it once more to the place of the last of
them gives the same digits, also if the first rounding has reached the next power of ten. -/
theorem roundTo_spec {count num den : ℕ} (hcount : 0 < count) (hnum : 0 < num) (hden : 0 < den) :
    IsNormal count (roundTo count num den) ∧
      RoundsTo count ((num : ℚ) / den) (roundTo count num den).value ∧
      IsNearestWhole (roundTo count num den).digits
        ((num : ℚ) / den / 10 ^ (roundTo count num den).exponent) := by
  have hlead := leadsAt_leadingExponent hnum hden
  have hcast : ((count - 1 : ℕ) : ℤ) = count - 1 := by omega
  simp only [roundTo, hcast, Nat.pow_eq]
  generalize he : leadingExponent num den - ((count : ℤ) - 1) = e
  obtain ⟨hpos, hscaled⟩ := inUnitsOf_spec num hden e
  have hnear := Binary64.isNearestWhole_roundHalfEven (inUnitsOf num den e).1 hpos
  generalize Binary64.roundHalfEven (inUnitsOf num den e).1 (inUnitsOf num den e).2 = n at *
  rw [hscaled] at hnear
  have hexponent : leadingExponent num den = e + count - 1 := by omega
  rw [hexponent] at hlead
  obtain ⟨hlow, hhigh⟩ := hnear.bounds hcount (by positivity) (add_sub_assoc e _ _ ▸ hlead).scaled
  split
  case isTrue hcarry =>
    have hpow : 10 ^ count = 10 * 10 ^ (count - 1) := (mul_pow_sub_one hcount.ne' 10).symm
    refine ⟨⟨Nat.le_refl _, Nat.pow_lt_pow_right (by decide) (by omega)⟩,
      ⟨e, n, hlead, hnear, ?_⟩, ?_⟩
    · rw [value, hcarry, hpow, ten_zpow_add]
      push_cast
      ring
    · rw [hcarry, hpow, Nat.cast_mul] at hnear
      rw [ten_zpow_add, ← div_div]
      exact hnear.of_tens
  case isFalse hcarry =>
    exact ⟨⟨hlow, Nat.lt_of_le_of_ne hhigh hcarry⟩, ⟨e, n, hlead, hnear, rfl⟩, hnear⟩

theorem roundTo_eq_of_roundsTo {count num den : ℕ} {d : Decimal} (hcount : 0 < count)
    (hnum : 0 < num) (hden : 0 < den) (hnormal : IsNormal count d)
    (h : RoundsTo count ((num : ℚ) / den) d.value) : roundTo count num den = d := by
  obtain ⟨hnormal', h', -⟩ := roundTo_spec hcount hnum hden
  exact hnormal'.eq_of_value hcount hnormal (h'.unique h)

end Decimal
end RemoteDev
