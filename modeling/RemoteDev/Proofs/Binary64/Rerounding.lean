import Mathlib
import RemoteDev.Proofs.Binary64.Rounding

/-! Rounding a second time. A number that is no farther from a rounded number than the one it was
rounded from is rounded to the same number. The exception is below a power of ten, where the places
are finer: there it has to be within half a unit of them. -/
namespace RemoteDev

namespace IsNearestWhole

/-- What is as close to a number as one that it is nearest to has it for its nearest too. -/
theorem of_closer {n : ℤ} {q p : ℚ} (h : IsNearestWhole n q) (hcloser : |p - n| ≤ |q - n|) :
    IsNearestWhole n p :=
  ⟨hcloser.trans h.near, fun htie => h.even (le_antisymm h.near (htie ▸ hcloser))⟩

theorem abs_sub_mul_le {n : ℕ} {v unit : ℚ} (h : IsNearestWhole n (v / unit))
    (hunit : 0 < unit) : |v - n * unit| ≤ unit / 2 := by
  have hhalf : unit / 2 = 1 / 2 * unit := by ring
  rw [abs_sub_mul_unit hunit, hhalf]
  exact mul_le_mul_of_nonneg_right h.near hunit.le

end IsNearestWhole

namespace RoundsTo

variable {count : ℕ} {v r : ℚ}

/-- What is rounded and the numbers it may come from, in units of the last place. -/
theorem exists_unit (hcount : 0 < count) (hv : 0 < v) (h : RoundsTo count v r) :
    ∃ (e : ℤ) (n : ℕ), LeadsAt (e + count - 1) v ∧ IsNearestWhole n (v / 10 ^ e) ∧
      r = n * 10 ^ e ∧ 10 ^ (count - 1) ≤ n ∧ n ≤ 10 ^ count := by
  obtain ⟨e, n, hlead, hnear, rfl⟩ := h
  have hq : 0 ≤ v / 10 ^ e := (div_pos hv (ten_zpow_pos e)).le
  have hscaled : LeadsAt (count - 1) (v / 10 ^ e) := (add_sub_assoc e _ _ ▸ hlead).scaled
  have hnonneg : 0 ≤ n := (isNearestWhole_intCast 0).mono hnear (by rwa [Int.cast_zero])
  obtain ⟨n, rfl⟩ := Int.eq_ofNat_of_zero_le hnonneg
  exact ⟨e, n, hlead, hnear, rfl, hnear.bounds hcount hq hscaled⟩

theorem ten_zpow_bounds {e : ℤ} {n : ℕ} (hcount : 0 < count)
    (hlow : 10 ^ (count - 1) ≤ n) (hhigh : n ≤ 10 ^ count) :
    (10 : ℚ) ^ (e + count - 1) ≤ n * 10 ^ e ∧ n * (10 : ℚ) ^ e ≤ 10 ^ (e + count) := by
  have hpos := (ten_zpow_pos e).le
  have hcast : e + count - 1 = ((count - 1 : ℕ) : ℤ) + e := by omega
  rw [hcast, add_comm e, ten_zpow_add, ten_zpow_add, zpow_natCast, zpow_natCast]
  exact ⟨mul_le_mul_of_nonneg_right (by exact_mod_cast hlow) hpos,
    mul_le_mul_of_nonneg_right (by exact_mod_cast hhigh) hpos⟩

theorem mono {w s : ℚ} (hcount : 0 < count) (hv : 0 < v) (hle : v ≤ w) (h : RoundsTo count v r)
    (h' : RoundsTo count w s) : r ≤ s := by
  have hw := hv.trans_le hle
  obtain ⟨e, n, hlead, hnear, rfl, hlow, hhigh⟩ := h.exists_unit hcount hv
  obtain ⟨e', n', hlead', hnear', rfl, hlow', hhigh'⟩ := h'.exists_unit hcount hw
  rw [LeadsAt, abs_of_pos hv] at hlead
  rw [LeadsAt, abs_of_pos hw] at hlead'
  have hexponent : e ≤ e' := by
    have := lt_of_ten_zpow_lt ((hlead.1.trans hle).trans_lt hlead'.2)
    omega
  have hpos := ten_zpow_pos e
  rcases hexponent.eq_or_lt with rfl | hlt
  · refine mul_le_mul_of_nonneg_right ?_ hpos.le
    exact_mod_cast hnear.mono hnear' (div_le_div_of_nonneg_right hle hpos.le)
  · exact (ten_zpow_bounds hcount hlow hhigh).2.trans
      ((ten_zpow_le (by omega)).trans (ten_zpow_bounds hcount hlow' hhigh').1)

/-- What is rounded to a power of ten is not farther below it than half a unit of the places that
the numbers below have. -/
theorem le_of_ten_zpow {s : ℚ} {k : ℤ} (hcount : 0 < count) (hs : 0 < s)
    (h : RoundsTo count s (10 ^ k)) : (10 : ℚ) ^ k - 10 ^ (k - count) / 2 ≤ s := by
  obtain ⟨e, n, hlead, hnear, hpower, hlow, hhigh⟩ := h.exists_unit hcount hs
  obtain ⟨hleast, hmost⟩ := ten_zpow_bounds (e := e) hcount hlow hhigh
  rw [← hpower] at hleast hmost
  rw [LeadsAt, abs_of_pos hs] at hlead
  have hge : e + count - 1 ≤ k := (zpow_le_zpow_iff_right₀ (by norm_num)).1 hleast
  have hle : k ≤ e + count := (zpow_le_zpow_iff_right₀ (by norm_num)).1 hmost
  rcases hle.eq_or_lt with heq | hlt
  · have hclose := (abs_le.1 (hnear.abs_sub_mul_le (ten_zpow_pos e))).1
    rw [← hpower] at hclose
    rw [show k - count = e by omega]
    linarith
  · rw [show k = e + count - 1 by omega]
    have := ten_zpow_pos (e + count - 1 - count)
    linarith [hlead.1]

theorem ten_zpow_of_lt {s : ℚ} {k : ℤ} (hcount : 0 < count)
    (hfine : (10 : ℚ) ^ k - 10 ^ (k - count) / 2 ≤ s) (hlt : s < 10 ^ k) :
    RoundsTo count s (10 ^ k) := by
  have hunit := ten_zpow_pos (k - count)
  have hstep : (10 : ℚ) ^ k = 10 ^ count * 10 ^ (k - count) := by
    rw [← zpow_natCast, ← ten_zpow_add, add_sub_cancel]
  have hdecade : (10 : ℚ) ^ k = 10 * 10 ^ (k - 1) := by
    rw [← zpow_one_add₀ (by norm_num), add_sub_cancel]
  have hle : (10 : ℚ) ^ (k - count) ≤ 10 ^ (k - 1) := ten_zpow_le (by omega)
  have hlow : (10 : ℚ) ^ (k - 1) ≤ s := by linarith
  refine ⟨k - count, (10 ^ count : ℕ), ?_, ?_, by rw [hstep]; push_cast; rfl⟩
  · rw [LeadsAt, abs_of_pos ((ten_zpow_pos _).trans_le hlow), sub_add_cancel, sub_add_cancel]
    exact ⟨hlow, hlt⟩
  · refine isNearestWhole_of_even ?_ ?_ ?_
    · rw [le_div_iff₀ hunit]
      push_cast
      linarith
    · rw [div_le_iff₀ hunit]
      push_cast
      linarith
    · exact_mod_cast Nat.even_pow.2 ⟨by decide, hcount.ne'⟩

theorem ten_zpow_of_le {s : ℚ} {k : ℤ} (hcount : 0 < count) (hle : (10 : ℚ) ^ k ≤ s)
    (hfine : s ≤ (10 : ℚ) ^ k + 10 ^ (k - count) / 2) : RoundsTo count s (10 ^ k) := by
  have hunit := ten_zpow_pos (k - count + 1)
  have hcast : ((count - 1 : ℕ) : ℤ) + (k - count + 1) = k := by omega
  have hstep : (10 : ℚ) ^ k = 10 ^ (count - 1) * 10 ^ (k - count + 1) := by
    rw [← zpow_natCast, ← ten_zpow_add, hcast]
  have htens : (10 : ℚ) ^ (k - count + 1) = 10 ^ (k - count) * 10 := zpow_add_one₀ (by norm_num) _
  have hdecade : (10 : ℚ) ^ (k + 1) = 10 ^ k * 10 := zpow_add_one₀ (by norm_num) k
  have hsmall : (10 : ℚ) ^ (k - count) ≤ 10 ^ k := ten_zpow_le (by omega)
  have hpos := ten_zpow_pos (k - count)
  refine ⟨k - count + 1, (10 ^ (count - 1) : ℕ), ?_, isNearestWhole_of_lt ?_ ?_,
    by rw [hstep]; push_cast; rfl⟩
  · rw [LeadsAt, abs_of_pos ((ten_zpow_pos k).trans_le hle),
      show k - count + 1 + count - 1 = k by omega]
    exact ⟨hle, by linarith⟩
  · rw [lt_div_iff₀ hunit]
    push_cast
    linarith
  · rw [div_lt_iff₀ hunit]
    push_cast
    linarith

theorem pos_of_closer {s : ℚ} (hcount : 0 < count) (hv : 0 < v) (h : RoundsTo count v r)
    (hcloser : |r - s| ≤ |r - v|) : 0 < s := by
  obtain ⟨e, n, -, hnear, rfl, hlow, hhigh⟩ := h.exists_unit hcount hv
  have hpos := ten_zpow_pos e
  have hclose := hnear.abs_sub_mul_le hpos
  rw [abs_sub_comm] at hclose
  have hs := (abs_le.1 (hcloser.trans hclose)).2
  have hone : (10 : ℚ) ^ e ≤ n * 10 ^ e := by
    refine le_mul_of_one_le_left hpos.le ?_
    exact_mod_cast (Nat.pow_pos (by decide)).trans_le hlow
  linarith

/-- A number that is as close to a rounded number as the one it comes from is rounded to the same
number, if it is close enough to a power of ten. -/
theorem of_closer {s : ℚ} (hcount : 0 < count) (hv : 0 < v) (h : RoundsTo count v r)
    (hcloser : |r - s| ≤ |r - v|)
    (hten : ∀ k : ℤ, r = 10 ^ k → (10 : ℚ) ^ k - 10 ^ (k - count) / 2 ≤ s) :
    RoundsTo count s r := by
  have hs := h.pos_of_closer hcount hv hcloser
  obtain ⟨e, n, hlead, hnear, rfl, hlow, hhigh⟩ := h.exists_unit hcount hv
  have hpos := ten_zpow_pos e
  -- in units of the last place the second number is as near to the digits as the first
  rw [abs_sub_comm _ s, abs_sub_comm _ v, abs_sub_mul_unit hpos, abs_sub_mul_unit hpos] at hcloser
  have hnear' := hnear.of_closer (le_of_mul_le_mul_right hcloser hpos)
  rcases lt_or_ge s (10 ^ (e + count - 1)) with hbelow | habove
  · -- the least number of the decade
    have hpower : (10 : ℚ) ^ (e + count - 1) = (10 ^ (count - 1) : ℕ) * 10 ^ e := by
      rw [Nat.cast_pow, Nat.cast_ofNat, ← zpow_natCast, ← ten_zpow_add]
      congr 1
      omega
    have hn : n = 10 ^ (count - 1) :=
      le_antisymm (hnear'.le_of_le_mul hpos (hpower ▸ hbelow.le)) hlow
    rw [hn, ← hpower] at hten ⊢
    exact ten_zpow_of_lt hcount (hten _ rfl) hbelow
  · rcases lt_or_ge s (10 ^ (e + count)) with hin | hover
    · refine ⟨e, n, ?_, hnear', by rw [Int.cast_natCast]⟩
      rw [LeadsAt, abs_of_pos hs, sub_add_cancel]
      exact ⟨habove, hin⟩
    · -- rounding has reached the next power of ten, and the second number is beyond it
      have hpower : (10 : ℚ) ^ (e + count) = (10 ^ count : ℕ) * 10 ^ e := by
        rw [Nat.cast_pow, Nat.cast_ofNat, ← zpow_natCast, ← ten_zpow_add, add_comm]
      have hn : n = 10 ^ count := le_antisymm hhigh (hnear'.le_of_mul_le hpos (hpower ▸ hover))
      have hclose := (abs_le.1 (hnear'.abs_sub_mul_le hpos)).2
      rw [hn, ← hpower] at hclose ⊢
      refine ten_zpow_of_le hcount hover ?_
      rw [add_sub_cancel_right]
      linarith

end RoundsTo
end RemoteDev
