import Mathlib
import RemoteDev.Binary64.Basic

/-! Rounding changes no number that needs none: the nearest number to the magnitude of a finite
number is the number itself. With enough digits a whole number is shown exactly, and dropping the
zeros at the end leaves the digits that a positional form continues with zeros. -/
namespace RemoteDev
namespace Binary64

theorem roundHalfEven_mul (n : Nat) {den : Nat} (hden : 0 < den) :
    roundHalfEven (n * den) den = n := by
  have hquotient : n * den / den = n := Nat.mul_div_cancel n hden
  have hremainder : n * den % den = 0 := Nat.mul_mod_left n den
  simp only [roundHalfEven, hquotient, hremainder]
  rw [if_neg]
  simp
  omega

theorem nearestCode_eq (num den : Nat) :
    nearestCode num den =
      min infiniteCode (((num / den).log2 - 52) * 2 ^ 52 +
        roundHalfEven num (den * 2 ^ ((num / den).log2 - 52))) := rfl

theorem units_eq (x : Binary64) :
    x.units =
      if x.code / 2 ^ 52 = 0 then x.code % 2 ^ 52
      else (2 ^ 52 + x.code % 2 ^ 52) * 2 ^ (x.code / 2 ^ 52 - 1) := rfl

theorem nearestCode_scaled {f : Nat} (hf : f < 2 ^ 52) (e : Nat) :
    nearestCode ((2 ^ 52 + f) * 2 ^ e) 1 = min infiniteCode (e * 2 ^ 52 + (2 ^ 52 + f)) := by
  have hpos : 0 < 2 ^ e := Nat.two_pow_pos e
  have hlow : 2 ^ (52 + e) ≤ (2 ^ 52 + f) * 2 ^ e := by
    rw [Nat.pow_add]
    exact Nat.mul_le_mul_right _ (Nat.le_add_right _ _)
  have hhigh : (2 ^ 52 + f) * 2 ^ e < 2 ^ (52 + e + 1) := by
    calc (2 ^ 52 + f) * 2 ^ e < 2 ^ 53 * 2 ^ e := Nat.mul_lt_mul_of_pos_right (by omega) hpos
      _ = 2 ^ (52 + e + 1) := by rw [← Nat.pow_add]; congr 1; omega
  have hne : (2 ^ 52 + f) * 2 ^ e ≠ 0 := Nat.ne_of_gt (Nat.mul_pos (by omega) hpos)
  have hlog : ((2 ^ 52 + f) * 2 ^ e).log2 = 52 + e := (Nat.log2_eq_iff hne).2 ⟨hlow, hhigh⟩
  have hshift : 52 + e - 52 = e := by omega
  rw [nearestCode_eq, Nat.div_one, hlog, hshift, Nat.one_mul, roundHalfEven_mul _ hpos]

theorem isFinite_iff (x : Binary64) : x.isFinite = true ↔ x.code < 2047 * 2 ^ 52 := by
  rw [isFinite, decide_eq_true_eq]
  rfl

/-- A magnitude of 53 binary digits at any scale is that of the number nearest to it. -/
theorem exact_of_code_scaled {x : Binary64} {f e : Nat} (hf : f < 2 ^ 52) (he : e < 2046)
    (hx : x.code = nearestCode ((2 ^ 52 + f) * 2 ^ e) 1) :
    x.isFinite = true ∧ x.units = (2 ^ 52 + f) * 2 ^ e := by
  have hinfinite : infiniteCode = 2047 * 2 ^ 52 := rfl
  have hcode : x.code = f + 2 ^ 52 * (e + 1) := by
    rw [hx, nearestCode_scaled hf, hinfinite]
    omega
  have hexponent : x.code / 2 ^ 52 = e + 1 := by
    rw [hcode, Nat.add_mul_div_left _ _ (Nat.two_pow_pos 52), Nat.div_eq_of_lt hf, Nat.zero_add]
  have hfraction : x.code % 2 ^ 52 = f := by
    rw [hcode, Nat.add_mul_mod_self_left, Nat.mod_eq_of_lt hf]
  refine ⟨(isFinite_iff x).2 (by omega), ?_⟩
  rw [units_eq, hexponent, hfraction, if_neg (Nat.succ_ne_zero e), Nat.add_sub_cancel]

theorem nearestCode_small {f : Nat} (hf : f < 2 ^ 52) :
    nearestCode f 1 = min infiniteCode f := by
  have hshift : f.log2 - 52 = 0 := by
    by_cases hzero : f = 0
    · rw [hzero, Nat.log2_zero]
    · have hlog := (Nat.log2_lt hzero).2 hf
      omega
  have hexact := roundHalfEven_mul f Nat.one_pos
  rw [Nat.mul_one] at hexact
  rw [nearestCode_eq, Nat.div_one, hshift, Nat.pow_zero, Nat.mul_one, Nat.zero_mul,
    Nat.zero_add, hexact]

theorem nearestCode_units {x : Binary64} (h : x.isFinite = true) :
    nearestCode x.units 1 = x.code := by
  have hfinite : x.code < infiniteCode := by simpa [isFinite] using h
  have hcode := Nat.div_add_mod x.code (2 ^ 52)
  have hf : x.code % 2 ^ 52 < 2 ^ 52 := Nat.mod_lt _ (Nat.two_pow_pos 52)
  by_cases he : x.code / 2 ^ 52 = 0
  · have hunits : x.units = x.code % 2 ^ 52 := by rw [units_eq, if_pos he]
    rw [hunits, nearestCode_small hf]
    omega
  · have hunits : x.units = (2 ^ 52 + x.code % 2 ^ 52) * 2 ^ (x.code / 2 ^ 52 - 1) := by
      rw [units_eq, if_neg he]
    rw [hunits, nearestCode_scaled hf]
    omega

theorem unitsPerOne_pos : 0 < unitsPerOne := by decide +kernel

theorem units_eq_zero {x : Binary64} : x.units = 0 ↔ x.code = 0 := by
  have hcode := Nat.div_add_mod x.code (2 ^ 52)
  rw [units_eq]
  split
  case isTrue he => omega
  case isFalse he =>
    have hpos : 0 < (2 ^ 52 + x.code % 2 ^ 52) * 2 ^ (x.code / 2 ^ 52 - 1) :=
      Nat.mul_pos (by omega) (Nat.two_pow_pos _)
    omega

theorem isZero_iff {x : Binary64} : x.isZero = true ↔ x.units = 0 := by
  rw [isZero, beq_iff_eq, units_eq_zero]

theorem isFinite_of_isZero {x : Binary64} (h : x.isZero = true) : x.isFinite = true := by
  rw [isFinite, beq_iff_eq.1 h]
  rfl

theorem wholePart_of_isZero {x : Binary64} (h : x.isZero = true) : x.wholePart = 0 := by
  rw [wholePart, isZero_iff.1 h, Nat.zero_div]

theorem truncateToWord_of_isZero {x : Binary64} (h : x.isZero = true) : x.truncateToWord = 0 := by
  rw [truncateToWord, wholePart_of_isZero h]
  cases x.negative <;> rfl

/-- A natural number of at most 53 binary digits is not rounded at any scale that has room for
them. -/
theorem exact_of_code_shifted {x : Binary64} {n shift : Nat} (hn : n < 2 ^ 53)
    (hlow : 52 ≤ shift) (hhigh : shift < 2046) (hx : x.code = nearestCode (n * 2 ^ shift) 1) :
    x.isFinite = true ∧ x.units = n * 2 ^ shift := by
  by_cases hzero : n = 0
  · have hnone : x.code = 0 := by
      rw [hx, hzero, Nat.zero_mul]
      exact nearestCode_small (Nat.two_pow_pos 52)
    refine ⟨(isFinite_iff x).2 (by omega), ?_⟩
    rw [units_eq_zero.2 hnone, hzero, Nat.zero_mul]
  · have hlog : n.log2 < 53 := (Nat.log2_lt hzero).2 hn
    -- moving part of the scale into the number gives it all 53 digits
    have hsplit : 2 ^ (52 - n.log2) * 2 ^ (shift - (52 - n.log2)) = 2 ^ shift := by
      rw [← Nat.pow_add, Nat.add_sub_cancel' (by omega)]
    have hleast : 2 ^ 52 ≤ n * 2 ^ (52 - n.log2) := by
      have hwhole : 2 ^ n.log2 * 2 ^ (52 - n.log2) = 2 ^ 52 := by
        rw [← Nat.pow_add, Nat.add_sub_cancel' (by omega)]
      exact hwhole ▸ Nat.mul_le_mul_right _ (Nat.log2_self_le hzero)
    have hmost : n * 2 ^ (52 - n.log2) < 2 ^ 53 := by
      have hwhole : 2 ^ (n.log2 + 1) * 2 ^ (52 - n.log2) = 2 ^ 53 := by
        rw [← Nat.pow_add, Nat.add_right_comm, Nat.add_sub_cancel' (by omega)]
      exact hwhole ▸ Nat.mul_lt_mul_of_pos_right Nat.lt_log2_self (Nat.two_pow_pos _)
    obtain ⟨f, hf⟩ := Nat.exists_eq_add_of_le hleast
    have hscaled : n * 2 ^ shift = (2 ^ 52 + f) * 2 ^ (shift - (52 - n.log2)) := by
      rw [← hf, Nat.mul_assoc, hsplit]
    rw [hscaled] at hx ⊢
    exact exact_of_code_scaled (by omega) (by omega) hx

theorem exact_ofInt_natCast {n : Nat} (h : n < 2 ^ 53) :
    (ofInt n).isFinite = true ∧ (ofInt n).units = n * unitsPerOne := by
  obtain ⟨shift, hshift, hlow, hhigh⟩ : ∃ shift, unitsPerOne = 2 ^ shift ∧ 52 ≤ shift ∧
      shift < 2046 := by
    unfold unitsPerOne
    generalize hscale : 1074 = scale
    exact ⟨scale, Nat.pow_eq, by omega, by omega⟩
  have hcode : (ofInt n).code = nearestCode (n * unitsPerOne) 1 := by
    rw [ofInt, ofRatio, Int.natAbs_natCast]
  rw [hshift] at hcode ⊢
  exact exact_of_code_shifted h hlow hhigh hcode

structure IsNatural (x : Binary64) (n : Nat) : Prop where
  sign : x.negative = false
  whole : x.isWhole = true
  part : x.wholePart = n

theorem isNatural_ofInt {n : Nat} (h : n < 2 ^ 53) : (ofInt n).IsNatural n where
  sign := decide_eq_false (Int.not_lt.2 (Int.natCast_nonneg n))
  whole := by
    obtain ⟨hfinite, hunits⟩ := exact_ofInt_natCast h
    rw [isWhole, hunits, Nat.mul_mod_left, hfinite]
    rfl
  part := by rw [wholePart, (exact_ofInt_natCast h).2, Nat.mul_div_cancel n unitsPerOne_pos]

theorem units_of_isWhole {x : Binary64} (h : x.isWhole = true) :
    x.units = x.wholePart * unitsPerOne := by
  simp only [isWhole, Bool.and_eq_true, beq_iff_eq] at h
  exact (Nat.div_mul_cancel (Nat.dvd_of_mod_eq_zero h.2)).symm

end Binary64

namespace Decimal

theorem lt_pow_digitCount (n : Nat) : n < 10 ^ digitCount n :=
  (Nat.length_toDigits_le_iff (by decide) Nat.length_toDigits_pos).1 (Nat.le_refl _)

theorem digitCount_le_iff {n count : Nat} (hcount : 0 < count) :
    digitCount n ≤ count ↔ n < 10 ^ count :=
  Nat.length_toDigits_le_iff (by decide) hcount

theorem digitCount_pos (n : Nat) : 0 < digitCount n := Nat.length_toDigits_pos

theorem toDigits_mul_pow {m : Nat} (hm : 0 < m) (j : Nat) :
    Nat.toDigits 10 (m * 10 ^ j) = Nat.toDigits 10 m ++ List.replicate j '0' := by
  induction j with
  | zero => simp
  | succ j ih =>
    have hpos : 0 < m * 10 ^ j := Nat.mul_pos hm (Nat.pow_pos (by decide))
    have happend := Nat.toDigits_append_toDigits (b := 10) (by decide) hpos (show 0 < 10 by decide)
    rw [Nat.add_zero, Nat.toDigits_zero] at happend
    rw [Nat.pow_succ, ← Nat.mul_assoc, Nat.mul_comm, ← happend, ih, List.append_assoc,
      List.replicate_succ']

theorem leadingExponent_mul {n den : Nat} (hn : 0 < n) (hden : 0 < den) :
    leadingExponent (n * den) den = digitCount n - 1 := by
  rw [leadingExponent, if_pos (Nat.le_mul_of_pos_left den hn), Nat.mul_div_cancel n hden]

theorem inUnitsOf_neg (num den k : Nat) : inUnitsOf num den (-k) = (num * 10 ^ k, den) := by
  unfold inUnitsOf
  split
  case isTrue h =>
    have hk : k = 0 := by omega
    simp [hk]
  case isFalse =>
    rw [Int.neg_neg, Int.toNat_natCast]
    rfl

theorem roundTo_mul {n den count : Nat} (hn : 0 < n) (hden : 0 < den)
    (hcount : digitCount n ≤ count) :
    roundTo count (n * den) den =
      ⟨n * 10 ^ (count - digitCount n), -((count - digitCount n : Nat) : Int)⟩ := by
  have hpos := digitCount_pos n
  have hexponent : (digitCount n : Int) - 1 - (count - 1 : Nat) =
      -((count - digitCount n : Nat) : Int) := by omega
  have hrounded : Binary64.roundHalfEven (n * den * 10 ^ (count - digitCount n)) den =
      n * 10 ^ (count - digitCount n) := by
    rw [Nat.mul_right_comm]
    exact Binary64.roundHalfEven_mul _ hden
  have hlt : n * 10 ^ (count - digitCount n) < 10 ^ count := by
    calc n * 10 ^ (count - digitCount n)
        < 10 ^ digitCount n * 10 ^ (count - digitCount n) :=
          Nat.mul_lt_mul_of_pos_right (lt_pow_digitCount n) (Nat.pow_pos (by decide))
      _ = 10 ^ count := by rw [← Nat.pow_add, Nat.add_sub_cancel' hcount]
  simp only [roundTo, leadingExponent_mul hn hden, hexponent, inUnitsOf_neg, hrounded]
  exact if_neg (Nat.ne_of_lt hlt)

theorem exists_strip (count : Nat) (d : Decimal) :
    ∃ t : Nat, d.digits = (strip count d).digits * 10 ^ t ∧
      (strip count d).exponent = d.exponent + t := by
  induction count generalizing d with
  | zero => exact ⟨0, by simp [strip], by simp [strip]⟩
  | succ count ih =>
    rw [strip]
    split
    case isTrue h =>
      obtain ⟨t, hdigits, hexponent⟩ := ih ⟨d.digits / 10, d.exponent + 1⟩
      refine ⟨t + 1, ?_, by rw [hexponent]; dsimp only; omega⟩
      rw [Nat.pow_succ, ← Nat.mul_assoc, ← hdigits]
      exact (Nat.div_mul_cancel (Nat.dvd_of_mod_eq_zero h)).symm
    case isFalse => exact ⟨0, by simp, by simp⟩

theorem strip_digits_mod {count : Nat} {d : Decimal} (hpos : 0 < d.digits)
    (hcount : d.digits < 10 ^ count) : (strip count d).digits % 10 ≠ 0 := by
  induction count generalizing d with
  | zero => omega
  | succ count ih =>
    rw [strip]
    split
    case isTrue h =>
      rw [Nat.pow_succ] at hcount
      exact ih (d := ⟨d.digits / 10, d.exponent + 1⟩) (by dsimp only; omega) (by dsimp only; omega)
    case isFalse h => exact h

theorem exists_strip_whole {n k count : Nat} (hn : 0 < n) (hcount : n * 10 ^ k < 10 ^ count) :
    ∃ m j : Nat, 0 < m ∧ n = m * 10 ^ j ∧
      strip count ⟨n * 10 ^ k, -(k : Int)⟩ = ⟨m, j⟩ := by
  have hpos : 0 < n * 10 ^ k := Nat.mul_pos hn (Nat.pow_pos (by decide))
  have hmod := strip_digits_mod (d := ⟨n * 10 ^ k, -(k : Int)⟩) hpos hcount
  obtain ⟨t, hdigits, hexponent⟩ := exists_strip count ⟨n * 10 ^ k, -(k : Int)⟩
  generalize strip count ⟨n * 10 ^ k, -(k : Int)⟩ = s at *
  obtain ⟨m, e⟩ := s
  dsimp only at hmod hdigits hexponent
  have hten : 0 < 10 ^ k := Nat.pow_pos (by decide)
  have hle : k ≤ t := by
    refine Nat.le_of_not_lt fun hlt => hmod ?_
    obtain ⟨i, rfl⟩ := Nat.exists_eq_add_of_lt hlt
    have hm : m = n * 10 ^ i * 10 := by
      refine Nat.eq_of_mul_eq_mul_right (Nat.pow_pos (n := t) (show 0 < 10 by decide)) ?_
      rw [← hdigits, Nat.mul_assoc, Nat.mul_assoc, ← Nat.pow_succ', ← Nat.pow_add]
      congr 2
      omega
    rw [hm]
    exact Nat.mul_mod_left _ _
  obtain ⟨j, rfl⟩ := Nat.exists_eq_add_of_le hle
  refine ⟨m, j, by omega, ?_, by rw [hexponent]; congr 1; omega⟩
  refine Nat.eq_of_mul_eq_mul_right hten ?_
  rw [hdigits, Nat.mul_assoc, ← Nat.pow_add, Nat.add_comm]

end Decimal
end RemoteDev
