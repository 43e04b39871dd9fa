import Mathlib
import RemoteDev.Proofs.Binary64.Places

/-! The number nearest to a quotient. Its magnitude is a whole number of the unit that leaves 53
binary digits, and no other magnitude is closer to the quotient; it is infinite from half a unit
beyond the greatest finite magnitude on. -/
namespace RemoteDev

theorem IsNearestWhole.closest {n : ℤ} {q : ℚ} (h : IsNearestWhole n q) (k : ℤ) :
    |q - n| ≤ |q - k| := by
  rcases eq_or_ne n k with rfl | hne
  · exact le_rfl
  · have hapart : (1 : ℚ) ≤ |(n : ℚ) - k| := by exact_mod_cast Int.one_le_abs (sub_ne_zero.2 hne)
    have htriangle : |(n : ℚ) - k| ≤ |q - n| + |q - k| := by
      rw [abs_sub_comm q n]
      exact abs_sub_le (n : ℚ) q k
    linarith [h.near]

theorem IsNearestWhole.closest_mul {n : ℕ} {q unit : ℚ} (hunit : 0 < unit)
    (h : IsNearestWhole n (q / unit)) (k : ℕ) : |q - n * unit| ≤ |q - k * unit| := by
  rw [abs_sub_mul_unit hunit, abs_sub_mul_unit hunit]
  exact mul_le_mul_of_nonneg_right (h.closest k) hunit.le

namespace Binary64

def unitsOf (code : ℕ) : ℕ :=
  if code / 2 ^ 52 = 0 then code % 2 ^ 52
  else (2 ^ 52 + code % 2 ^ 52) * 2 ^ (code / 2 ^ 52 - 1)

theorem units_eq_unitsOf (x : Binary64) : x.units = unitsOf x.code := units_eq x

/-- A code counts units of its binary order, from the least of 53 digits on. -/
theorem unitsOf_scaled {shift m : ℕ} (hlow : shift = 0 ∨ 2 ^ 52 ≤ m) (hhigh : m ≤ 2 ^ 53) :
    unitsOf (shift * 2 ^ 52 + m) = m * 2 ^ shift := by
  rcases Nat.lt_or_ge m (2 ^ 52) with hsmall | hlarge
  · obtain rfl : shift = 0 := hlow.resolve_right (by omega)
    rw [unitsOf, if_pos (by omega)]
    omega
  · rcases Nat.lt_or_ge m (2 ^ 53) with hin | hover
    · have hexponent : (shift * 2 ^ 52 + m) / 2 ^ 52 = shift + 1 := by omega
      have hfraction : (shift * 2 ^ 52 + m) % 2 ^ 52 = m - 2 ^ 52 := by omega
      rw [unitsOf, hexponent, hfraction, if_neg (Nat.succ_ne_zero shift), Nat.add_sub_cancel,
        Nat.add_sub_cancel' hlarge]
    · -- rounding has reached the next order
      obtain rfl : m = 2 ^ 53 := le_antisymm hhigh hover
      have hexponent : (shift * 2 ^ 52 + 2 ^ 53) / 2 ^ 52 = shift + 2 := by omega
      have hfraction : (shift * 2 ^ 52 + 2 ^ 53) % 2 ^ 52 = 0 := by omega
      have hnext : shift + 2 - 1 = shift + 1 := by omega
      rw [unitsOf, hexponent, hfraction, if_neg (Nat.succ_ne_zero _), hnext, Nat.pow_succ]
      ring

/-- Every magnitude is a multiple of a unit, or too small to have 53 digits in it. -/
theorem unitsOf_cases (code shift : ℕ) :
    (∃ k, unitsOf code = k * 2 ^ shift) ∨ 0 < shift ∧ unitsOf code < 2 ^ 52 * 2 ^ shift := by
  have hf : code % 2 ^ 52 < 2 ^ 52 := Nat.mod_lt _ (Nat.two_pow_pos 52)
  unfold unitsOf
  split
  case isTrue =>
    rcases Nat.eq_zero_or_pos shift with rfl | hpos
    · exact .inl ⟨_, (Nat.mul_one _).symm⟩
    · exact .inr ⟨hpos, hf.trans_le (Nat.le_mul_of_pos_right _ (Nat.two_pow_pos shift))⟩
  case isFalse =>
    rcases Nat.lt_or_ge (code / 2 ^ 52 - 1) shift with hlt | hge
    · refine .inr ⟨by omega, ?_⟩
      calc (2 ^ 52 + code % 2 ^ 52) * 2 ^ (code / 2 ^ 52 - 1)
          < 2 ^ 53 * 2 ^ (code / 2 ^ 52 - 1) :=
            Nat.mul_lt_mul_of_pos_right (by omega) (Nat.two_pow_pos _)
        _ = 2 ^ 52 * 2 ^ (code / 2 ^ 52 - 1 + 1) := by rw [Nat.pow_succ]; ring
        _ ≤ 2 ^ 52 * 2 ^ shift :=
            Nat.mul_le_mul_left _ (Nat.pow_le_pow_right (by decide) hlt)
    · refine .inl ⟨(2 ^ 52 + code % 2 ^ 52) * 2 ^ (code / 2 ^ 52 - 1 - shift), ?_⟩
      rw [Nat.mul_assoc, ← Nat.pow_add, Nat.sub_add_cancel hge]

theorem lt_mul_two_pow_log2 (n : ℕ) : n < 2 ^ 53 * 2 ^ (n.log2 - 52) := by
  rw [← Nat.pow_add]
  exact Nat.lt_log2_self.trans_le (Nat.pow_le_pow_right (by decide) (by omega))

theorem mul_two_pow_log2_le {n : ℕ} (h : 0 < n.log2 - 52) : 2 ^ 52 * 2 ^ (n.log2 - 52) ≤ n := by
  have hne : n ≠ 0 := by
    rintro rfl
    rw [Nat.log2_zero] at h
    omega
  rw [← Nat.pow_add]
  exact (Nat.pow_le_pow_right (by decide) (by omega)).trans (Nat.log2_self_le hne)

theorem nearestCode_spec (num : ℕ) {den : ℕ} (hden : 0 < den) :
    ∃ shift m : ℕ, nearestCode num den = min infiniteCode (shift * 2 ^ 52 + m) ∧
      IsNearestWhole m ((num : ℚ) / den / 2 ^ shift) ∧ m ≤ 2 ^ 53 ∧
      (shift = 0 ∨ 2 ^ 52 ≤ m ∧ 2 ^ 52 * 2 ^ shift ≤ (num : ℚ) / den) := by
  have hpos : (0 : ℚ) < den := by exact_mod_cast hden
  have hcode := nearestCode_eq num den
  have hbelow := lt_mul_two_pow_log2 (num / den)
  have habove := mul_two_pow_log2_le (n := num / den)
  generalize (num / den).log2 - 52 = shift at *
  have hunit : (0 : ℚ) < 2 ^ shift := by positivity
  have hnear : IsNearestWhole (roundHalfEven num (den * 2 ^ shift))
      ((num : ℚ) / den / 2 ^ shift) := by
    have h := isNearestWhole_roundHalfEven num (Nat.mul_pos hden (Nat.two_pow_pos shift))
    push_cast at h
    rwa [← div_div] at h
  refine ⟨shift, _, hcode, hnear, hnear.le_of_le_mul hunit ?_, ?_⟩
  · rw [div_le_iff₀ hpos]
    exact_mod_cast ((Nat.div_lt_iff_lt_mul hden).1 hbelow).le
  · rcases Nat.eq_zero_or_pos shift with hnone | hsome
    · exact .inl hnone
    · have hleast : ((2 ^ 52 : ℕ) : ℚ) * 2 ^ shift ≤ (num : ℚ) / den := by
        rw [le_div_iff₀ hpos]
        exact_mod_cast (Nat.le_div_iff_mul_le hden).1 (habove hsome)
      exact .inr ⟨hnear.le_of_mul_le hunit hleast, by exact_mod_cast hleast⟩

/-- No number is closer to a quotient than the nearest, if that is finite. -/
theorem nearestCode_closest (num : ℕ) {den : ℕ} (hden : 0 < den)
    (hfinite : nearestCode num den < infiniteCode) (code : ℕ) :
    |(num : ℚ) / den - unitsOf (nearestCode num den)| ≤ |(num : ℚ) / den - unitsOf code| := by
  obtain ⟨shift, m, hcode, hnear, hhigh, hlow⟩ := nearestCode_spec num hden
  have hunit : (0 : ℚ) < 2 ^ shift := by positivity
  have hunits : unitsOf (nearestCode num den) = m * 2 ^ shift := by
    rw [hcode, min_eq_right (by omega)]
    exact unitsOf_scaled (hlow.imp_right And.left) hhigh
  rw [hunits]
  push_cast
  rcases unitsOf_cases code shift with ⟨k, hk⟩ | ⟨hshift, hsmall⟩
  · rw [hk]
    push_cast
    exact_mod_cast hnear.closest_mul hunit k
  · -- the least of 53 digits is between the quotient and a smaller magnitude
    obtain ⟨-, hleast⟩ := hlow.resolve_left (by omega)
    have hbetween := hnear.closest_mul hunit (2 ^ 52)
    rw [Nat.cast_pow, Nat.cast_ofNat] at hbetween
    have hcode' : (unitsOf code : ℚ) < 2 ^ 52 * 2 ^ shift := by exact_mod_cast hsmall
    rw [abs_of_nonneg (a := (num : ℚ) / den - 2 ^ 52 * 2 ^ shift) (by linarith)] at hbetween
    rw [abs_of_nonneg (a := (num : ℚ) / den - unitsOf code) (by linarith)]
    linarith

/-- A quotient that is rounded to an infinite number is at least half a unit beyond the greatest
finite magnitude. -/
theorem le_of_nearestCode_eq (num : ℕ) {den : ℕ} (hden : 0 < den)
    (h : nearestCode num den = infiniteCode) :
    ((2 : ℚ) ^ 54 - 1) * 2 ^ 2044 ≤ (num : ℚ) / den := by
  obtain ⟨shift, m, hcode, hnear, hhigh, hlow⟩ := nearestCode_spec num hden
  have hinfinite : infiniteCode = 2047 * 2 ^ 52 := rfl
  have hreached : 2047 * 2 ^ 52 ≤ shift * 2 ^ 52 + m := by
    rw [← hinfinite, ← h, hcode]
    exact Nat.min_le_right _ _
  obtain ⟨-, hleast⟩ := hlow.resolve_left (by omega)
  have hunit : (0 : ℚ) < 2 ^ shift := by positivity
  have hpow (k : ℕ) (hk : 2044 + k ≤ shift) : (2 : ℚ) ^ 2044 * 2 ^ k ≤ 2 ^ shift := by
    rw [← pow_add]
    exact pow_le_pow_right₀ (by norm_num) hk
  have hpos : (0 : ℚ) < 2 ^ 2044 := by positivity
  rcases Nat.lt_or_ge 2045 shift with hlt | hge
  · have hfour := hpow 2 (by omega)
    generalize (2 : ℚ) ^ 2044 = unit at *
    generalize (2 : ℚ) ^ shift = scale at *
    linarith
  · -- the digits have reached the next order, from the last number before it
    have hnext : (m : ℚ) = 2 ^ 53 := by
      have : m = 2 ^ 53 := by omega
      exact_mod_cast this
    have htwo := hpow 1 (by omega)
    have hbelow := (abs_le.1 hnear.near).1
    rw [Int.cast_natCast, hnext, le_sub_iff_add_le, ← sub_eq_neg_add, le_div_iff₀ hunit] at hbelow
    generalize (2 : ℚ) ^ 2044 = unit at *
    generalize (2 : ℚ) ^ shift = scale at *
    linarith

end Binary64
end RemoteDev
