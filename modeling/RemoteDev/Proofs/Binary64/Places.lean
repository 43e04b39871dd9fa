import Mathlib
import RemoteDev.Proofs.Binary64.Digits
import RemoteDev.Proofs.Binary64.Rounding
import RemoteDev.Proofs.Separator

/-! The text of a number in packets, from its sixteen digits alone. The form without an exponent
comes from a rounding of its own, to as many places as the form with an exponent leaves; the two
roundings agree. -/
namespace RemoteDev

namespace Decimal

theorem value_pos {d : Decimal} (h : 0 < d.digits) : 0 < d.value := by
  have hdigits : (0 : ℚ) < d.digits := by exact_mod_cast h
  exact mul_pos hdigits (ten_zpow_pos d.exponent)

/-- The power of ten that the first digit stands for. -/
def leading (d : Decimal) : ℤ := d.exponent + (digitCount d.digits - 1 : ℕ)

theorem isNormal_digitCount {d : Decimal} (h : 0 < d.digits) : IsNormal (digitCount d.digits) d :=
  ⟨pow_le_of_digitCount h, lt_pow_digitCount d.digits⟩

theorem leadsAt_leading {d : Decimal} (h : 0 < d.digits) : LeadsAt d.leading d.value := by
  have hcount := digitCount_pos d.digits
  have hleading : d.leading = d.exponent + digitCount d.digits - 1 := by
    rw [leading]
    omega
  exact hleading ▸ (isNormal_digitCount h).leadsAt hcount

def positionalChars (d : Decimal) : List Char :=
  let whole := d.digits * 10 ^ d.exponent.toNat
  let places := (-d.exponent).toNat
  Nat.toDigits 10 (whole / 10 ^ places) ++ Binary64.pointed (Binary64.lastDigits places whole)

/-- One digit before the point, the others behind it, and the power of ten of the first. -/
def exponentialChars (d : Decimal) : List Char :=
  let ds := Nat.toDigits 10 d.digits
  ds.take 1 ++ Binary64.pointed (ds.drop 1) ++
    'e' :: NumberStyle.packet.exponentText d.leading

def packetChars (d : Decimal) : List Char :=
  if NumberStyle.packet.positional d.leading then d.positionalChars else d.exponentialChars

end Decimal

namespace Binary64

def size (x : Binary64) : ℚ := x.units / unitsPerOne

def sixteen (x : Binary64) : Decimal := Decimal.roundTo 16 x.units unitsPerOne

/-- The decimal that is shown of a number: its sixteen digits without the zeros at their end. -/
def shown (x : Binary64) : Decimal := x.sixteen.strip 16

theorem scientificText_eq (x : Binary64) :
    x.scientificText packetPlaces = x.signChars ++ (Nat.toDigits 10 x.sixteen.digits).take 1 ++
      pointed ((Nat.toDigits 10 x.sixteen.digits).drop 1) ++
        'e' :: (signedText (x.sixteen.exponent + packetPlaces)).toList := by
  unfold scientificText sixteen packetPlaces
  rfl

theorem splitAtFirst_scientificText (x : Binary64) :
    splitAtFirst ['e'] (x.scientificText packetPlaces) =
      some (x.signChars ++ (Nat.toDigits 10 x.sixteen.digits).take 1 ++
        pointed ((Nat.toDigits 10 x.sixteen.digits).drop 1),
        (signedText (x.sixteen.exponent + packetPlaces)).toList) := by
  have hsign : 'e' ∉ x.signChars := by
    unfold signChars
    split <;> decide
  have hdigits : 'e' ∉ Nat.toDigits 10 x.sixteen.digits := fun h =>
    absurd (Text.isDigit_of_mem_toDigits h) (by decide)
  have hpointed {ds : List Char} (h : 'e' ∉ ds) : 'e' ∉ pointed ds := by
    cases ds with
    | nil => exact h
    | cons c r => simpa [pointed] using h
  rw [scientificText_eq]
  refine splitAtFirst_append_cons ?_ _
  simp only [List.mem_append, not_or]
  exact ⟨⟨hsign, fun h => hdigits (List.mem_of_mem_take h)⟩,
    hpointed fun h => hdigits (List.mem_of_mem_drop h)⟩

section Shown

variable {x : Binary64} (hpos : 0 < x.units)

include hpos

theorem sixteen_spec :
    x.sixteen.IsNormal 16 ∧ RoundsTo 16 x.size x.sixteen.value ∧
      IsNearestWhole x.sixteen.digits (x.size / 10 ^ x.sixteen.exponent) :=
  Decimal.roundTo_spec (by decide) hpos unitsPerOne_pos

theorem sixteen_digits_pos : 0 < x.sixteen.digits :=
  (Nat.pow_pos (by decide)).trans_le (sixteen_spec hpos).1.1

theorem shown_digits_mod : x.shown.digits % 10 ≠ 0 :=
  Decimal.strip_digits_mod (sixteen_digits_pos hpos) (sixteen_spec hpos).1.2

theorem shown_digits_pos : 0 < x.shown.digits := by
  have hmod := shown_digits_mod hpos
  omega

omit hpos in
theorem exists_shown : ∃ zeros : ℕ, x.sixteen.digits = x.shown.digits * 10 ^ zeros ∧
    x.shown.exponent = x.sixteen.exponent + zeros := Decimal.exists_strip 16 x.sixteen

omit hpos in
theorem value_shown : x.shown.value = x.sixteen.value := by
  obtain ⟨zeros, hdigits, hexponent⟩ := exists_shown (x := x)
  rw [Decimal.value, Decimal.value, hdigits, hexponent, ten_zpow_add, zpow_natCast]
  push_cast
  ring

theorem leading_shown : x.shown.leading = x.sixteen.exponent + 15 := by
  have hshown := Decimal.leadsAt_leading (shown_digits_pos hpos)
  have hsixteen := (sixteen_spec hpos).1.leadsAt (by decide)
  rw [value_shown] at hshown
  have := hshown.unique hsixteen
  omega

/-- The two roundings agree: to the places that are left for sixteen digits, a number has the same
digits as with an exponent. -/
theorem roundHalfEven_places {places : ℕ} (h : x.sixteen.exponent = -places) :
    roundHalfEven (x.units * 10 ^ places) unitsPerOne = x.sixteen.digits := by
  have hnear := (sixteen_spec hpos).2.2
  rw [h, size, zpow_neg, zpow_natCast, div_inv_eq_mul] at hnear
  rw [roundHalfEven_eq_iff unitsPerOne_pos]
  push_cast
  rwa [mul_div_right_comm]

theorem withoutFractionZeros_fixedText {places : ℕ} (h : x.sixteen.exponent = -places) :
    withoutFractionZeros (x.fixedText places) = x.signChars ++ x.shown.positionalChars := by
  obtain ⟨zeros, hdigits, hexponent⟩ := exists_shown (x := x)
  have hmod := shown_digits_mod hpos
  rw [h] at hexponent
  simp only [fixedText, Nat.pow_eq, roundHalfEven_places hpos h, Decimal.positionalChars]
  rw [hdigits]
  generalize x.shown.digits = m at *
  generalize x.shown.exponent = e at *
  obtain ⟨kept, hkept⟩ : ∃ kept, kept = e.toNat := ⟨_, rfl⟩
  obtain ⟨behind, hbehind⟩ : ∃ behind, behind = (-e).toNat := ⟨_, rfl⟩
  obtain ⟨dropped, hdropped⟩ : ∃ dropped, zeros = kept + dropped := ⟨zeros - kept, by omega⟩
  have hplaces : places = behind + dropped := by omega
  rw [← hkept, ← hbehind, hplaces, hdropped, Nat.pow_add 10 kept, ← Nat.mul_assoc,
    lastDigits_mul_pow, Nat.pow_add 10 behind,
    Nat.mul_div_mul_right _ _ (Nat.pow_pos (by decide)), ← List.append_assoc]
  refine withoutFractionZeros_pointed ?_ ?_ ?_ dropped
  · rw [List.mem_append, not_or]
    exact ⟨point_notMem_signChars x,
      point_notMem_of_isDigit fun c => Text.isDigit_of_mem_toDigits⟩
  · exact point_notMem_of_isDigit fun c => isDigit_of_mem_lastDigits
  · rcases Nat.eq_zero_or_pos behind with hnone | hsome
    · simp [hnone, lastDigits]
    · rw [show kept = 0 by omega, Nat.pow_zero, Nat.mul_one]
      exact getLast?_lastDigits hmod

theorem withoutFractionZeros_mantissa :
    withoutFractionZeros (x.signChars ++ (Nat.toDigits 10 x.sixteen.digits).take 1 ++
        pointed ((Nat.toDigits 10 x.sixteen.digits).drop 1)) =
      x.signChars ++ ((Nat.toDigits 10 x.shown.digits).take 1 ++
        pointed ((Nat.toDigits 10 x.shown.digits).drop 1)) := by
  obtain ⟨zeros, hdigits, -⟩ := exists_shown (x := x)
  have hlength : 1 ≤ (Nat.toDigits 10 x.shown.digits).length := Nat.length_toDigits_pos
  have hdigit : ∀ c ∈ Nat.toDigits 10 x.shown.digits, c.isDigit = true :=
    fun c => Text.isDigit_of_mem_toDigits
  rw [hdigits, Decimal.toDigits_mul_pow (shown_digits_pos hpos),
    List.take_append_of_le_length hlength, List.drop_append_of_le_length hlength,
    ← List.append_assoc]
  refine withoutFractionZeros_pointed ?_ ?_ ?_ zeros
  · rw [List.mem_append, not_or]
    exact ⟨point_notMem_signChars x,
      point_notMem_of_isDigit fun c hc => hdigit c (List.mem_of_mem_take hc)⟩
  · exact point_notMem_of_isDigit fun c hc => hdigit c (List.mem_of_mem_drop hc)
  · rw [List.getLast?_drop]
    split
    · exact nofun
    · exact getLast?_toDigits (shown_digits_mod hpos)

end Shown

theorem isFinite_cases {x : Binary64} (h : x.isFinite = true) :
    x.isNaN = false ∧ x.isInfinite = false := by
  simp only [isFinite, decide_eq_true_eq] at h
  rw [isNaN, isInfinite, decide_eq_false_iff_not, beq_eq_false_iff_ne]
  omega

theorem isFinite_of_not {x : Binary64} (hnan : ¬ x.isNaN = true)
    (hinfinite : ¬ x.isInfinite = true) : x.isFinite = true := by
  simp only [isNaN, isInfinite, decide_eq_true_eq, beq_iff_eq] at hnan hinfinite
  rw [isFinite, decide_eq_true_eq]
  omega

theorem units_pos {x : Binary64} (h : x.isZero = false) : 0 < x.units := by
  rw [isZero, beq_eq_false_iff_ne, ne_eq, ← units_eq_zero] at h
  exact Nat.pos_of_ne_zero h

theorem packetText_of_isFinite {x : Binary64} (hfinite : x.isFinite = true)
    (hzero : x.isZero = false) :
    x.packetText = String.ofList (x.signChars ++ x.shown.packetChars) := by
  obtain ⟨hnan, hinfinite⟩ := isFinite_cases hfinite
  have hpos := units_pos hzero
  have hleading : x.sixteen.exponent + packetPlaces = x.shown.leading := (leading_shown hpos).symm
  have hscientific := splitAtFirst_scientificText x
  rw [hleading] at hscientific
  simp only [packetText, hnan, hinfinite, hzero, hscientific, Option.getD_some,
    Text.integer?_signedText, Bool.false_eq_true, if_false, Decimal.packetChars]
  refine congrArg String.ofList ?_
  split
  case isTrue hpositional =>
    simp only [NumberStyle.packet, Bool.and_eq_true, decide_eq_true_eq] at hpositional
    refine withoutFractionZeros_fixedText hpos ?_
    simp only [packetPlaces] at hleading ⊢
    omega
  case isFalse =>
    rw [withoutFractionZeros_mantissa hpos, Decimal.exponentialChars, List.append_assoc]

end Binary64
end RemoteDev
