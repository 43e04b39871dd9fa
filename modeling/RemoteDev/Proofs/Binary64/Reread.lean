import Mathlib
import RemoteDev.Proofs.Binary64.Nearest
import RemoteDev.Proofs.Binary64.Reading
import RemoteDev.Proofs.Binary64.Rerounding

/-! A number that is read back from its text in packets. What is read is the number nearest to the
sixteen digits that are shown, and so the text of most numbers does not change when it is read and
written again. -/
namespace RemoteDev

namespace Decimal

theorem nearest_spec {d : Decimal} (hdigits : 0 < d.digits) (hlow : -rangeLimit ≤ d.leading + 1)
    (hhigh : d.leading + 1 ≤ rangeLimit) (negative : Bool) :
    ∃ num den : ℕ, 0 < den ∧ (num : ℚ) / den = d.value ∧
      nearest negative d = Binary64.ofRatio negative num den := by
  have hcount := digitCount_pos d.digits
  have htop : (digitCount d.digits : ℤ) + d.exponent = d.leading + 1 := by
    rw [leading]
    omega
  have hzero : ¬ (d.digits = 0 ∨ d.leading + 1 < -rangeLimit) := by
    rintro (h | h) <;> omega
  simp only [nearest, htop, if_neg hzero, if_neg (Int.not_lt.2 hhigh), Nat.pow_eq]
  rcases Int.le_total 0 d.exponent with hle | hle
  · obtain ⟨k, hk⟩ := Int.eq_ofNat_of_zero_le hle
    refine ⟨d.digits * 10 ^ k, 1, Nat.one_pos, ?_, ?_⟩
    · rw [value, hk, zpow_natCast]
      push_cast
      exact div_one _
    · rw [if_pos hle, hk, Int.toNat_natCast]
  · rcases hle.eq_or_lt with heq | hlt
    · refine ⟨d.digits, 1, Nat.one_pos, ?_, ?_⟩
      · rw [value, heq, zpow_zero, Nat.cast_one, div_one, mul_one]
      · rw [if_pos heq.ge, heq, Int.toNat_zero, Nat.pow_zero, Nat.mul_one]
    · obtain ⟨k, hk⟩ : ∃ k : ℕ, d.exponent = -k := ⟨(-d.exponent).toNat, by omega⟩
      refine ⟨d.digits, 10 ^ k, Nat.pow_pos (by decide), ?_, ?_⟩
      · rw [value, hk, zpow_neg, zpow_natCast]
        push_cast
        rfl
      · rw [if_neg (Int.not_le.2 hlt), hk, neg_neg, Int.toNat_natCast]

end Decimal

namespace Binary64

theorem size_eq (x : Binary64) : x.size = unitsOf x.code / unitsPerOne := by
  rw [size, units_eq_unitsOf]

theorem negative_ofRatio (negative : Bool) (num den : ℕ) :
    (ofRatio negative num den).negative = negative := rfl

/-- No finite number is closer to a quotient than the one that it is read as. -/
theorem ofRatio_closest {negative : Bool} {num den : ℕ} (hden : 0 < den)
    (hfinite : (ofRatio negative num den).isFinite = true) (y : Binary64) :
    |(num : ℚ) / den - (ofRatio negative num den).size| ≤ |(num : ℚ) / den - y.size| := by
  have hone : (0 : ℚ) < unitsPerOne := by exact_mod_cast unitsPerOne_pos
  rw [isFinite, decide_eq_true_eq] at hfinite
  have hclosest := nearestCode_closest (num * unitsPerOne) hden hfinite y.code
  have hscaled (code : ℕ) : |((num * unitsPerOne : ℕ) : ℚ) / den - unitsOf code| =
      |(num : ℚ) / den - unitsOf code / unitsPerOne| * unitsPerOne := by
    rw [← abs_of_pos hone, ← abs_mul, abs_of_pos hone, sub_mul, div_mul_cancel₀ _ hone.ne',
      Nat.cast_mul, mul_div_right_comm]
  rw [hscaled, hscaled] at hclosest
  rw [size_eq, size_eq]
  exact le_of_mul_le_mul_right hclosest hone

theorem unitsPerOne_eq : (unitsPerOne : ℚ) = 2 ^ 1074 := by
  unfold unitsPerOne
  generalize 1074 = k
  rw [Nat.pow_eq, Nat.cast_pow, Nat.cast_ofNat]

theorem le_of_ofRatio_infinite {negative : Bool} {num den : ℕ} (hden : 0 < den)
    (h : (ofRatio negative num den).isFinite = false) :
    ((2 : ℚ) ^ 54 - 1) * 2 ^ 970 ≤ (num : ℚ) / den := by
  have hone : (0 : ℚ) < unitsPerOne := by exact_mod_cast unitsPerOne_pos
  rw [isFinite, decide_eq_false_iff_not, Nat.not_lt] at h
  have hcode := le_of_nearestCode_eq (num * unitsPerOne) hden
    (Nat.le_antisymm (nearestCode_le _ _) h)
  have hpow : (2 : ℚ) ^ 2044 = 2 ^ 970 * unitsPerOne := by rw [unitsPerOne_eq, ← pow_add]
  rw [Nat.cast_mul, mul_div_right_comm, hpow, ← mul_assoc] at hcode
  exact le_of_mul_le_mul_right hcode hone

theorem unitsOf_mono {code code' : ℕ} (h : code ≤ code') : unitsOf code ≤ unitsOf code' := by
  have hf : code % 2 ^ 52 < 2 ^ 52 := Nat.mod_lt _ (Nat.two_pow_pos 52)
  have horder : code / 2 ^ 52 ≤ code' / 2 ^ 52 := Nat.div_le_div_right h
  unfold unitsOf
  rcases horder.eq_or_lt with heq | hlt
  · have hfraction : code % 2 ^ 52 ≤ code' % 2 ^ 52 := by omega
    rw [heq]
    split
    · exact hfraction
    · exact Nat.mul_le_mul_right _ (Nat.add_le_add_left hfraction _)
  · rw [if_neg (show ¬ code' / 2 ^ 52 = 0 by omega)]
    have hnext : 2 ^ 52 * 2 ^ (code / 2 ^ 52) ≤
        (2 ^ 52 + code' % 2 ^ 52) * 2 ^ (code' / 2 ^ 52 - 1) :=
      Nat.mul_le_mul (Nat.le_add_right _ _) (Nat.pow_le_pow_right (by decide) (by omega))
    refine le_trans ?_ hnext
    split
    case isTrue => exact hf.le.trans (Nat.le_mul_of_pos_right _ (Nat.two_pow_pos _))
    case isFalse he =>
      obtain ⟨e, he⟩ := Nat.exists_eq_succ_of_ne_zero he
      rw [he, Nat.succ_sub_one]
      calc (2 ^ 52 + code % 2 ^ 52) * 2 ^ e
          ≤ (2 ^ 52 + 2 ^ 52) * 2 ^ e := Nat.mul_le_mul_right _ (Nat.add_le_add_left hf.le _)
        _ = 2 ^ 52 * 2 ^ (e + 1) := by rw [Nat.pow_succ 2 e]; ring

theorem unitsPerOne_lt : unitsPerOne < 10 ^ 324 := by decide +kernel

theorem unitsOf_greatest_lt : unitsOf (infiniteCode - 1) < 10 ^ 309 * unitsPerOne := by
  decide +kernel

theorem ten_zpow_lt_size {x : Binary64} (hpos : 0 < x.units) {k : ℕ}
    (h : unitsPerOne < 10 ^ k) : (10 : ℚ) ^ (-k : ℤ) < x.size := by
  have hone : (0 : ℚ) < unitsPerOne := by exact_mod_cast unitsPerOne_pos
  have hten : (unitsPerOne : ℚ) < 10 ^ k := by exact_mod_cast h
  have hunits : (1 : ℚ) ≤ x.units := by exact_mod_cast hpos
  rw [size, zpow_neg, zpow_natCast, lt_div_iff₀ hone, inv_mul_lt_iff₀ (by positivity)]
  calc (unitsPerOne : ℚ) < 10 ^ k := hten
    _ ≤ 10 ^ k * x.units := le_mul_of_one_le_right (by positivity) hunits

theorem size_lt_ten_zpow {x : Binary64} {code k : ℕ} (hcode : x.code ≤ code)
    (h : unitsOf code < 10 ^ k * unitsPerOne) : x.size < (10 : ℚ) ^ (k : ℤ) := by
  have hone : (0 : ℚ) < unitsPerOne := by exact_mod_cast unitsPerOne_pos
  rw [size_eq, zpow_natCast, div_lt_iff₀ hone]
  exact_mod_cast (unitsOf_mono hcode).trans_lt h

theorem leading_shown_bounds {x : Binary64} (hfinite : x.isFinite = true) (hpos : 0 < x.units) :
    -324 ≤ x.shown.leading ∧ x.shown.leading ≤ 309 := by
  have hsize := size_pos hpos
  have hrounds := (sixteen_spec hpos).2.1
  rw [← value_shown] at hrounds
  obtain ⟨e, n, hlead, -, hvalue, hlow, hhigh⟩ := hrounds.exists_unit (by decide) hsize
  obtain ⟨hleast, hmost⟩ := RoundsTo.ten_zpow_bounds (e := e) (by decide) hlow hhigh
  have hleading := Decimal.leadsAt_leading (shown_digits_pos hpos)
  rw [LeadsAt, abs_of_pos (Decimal.value_pos (shown_digits_pos hpos)), hvalue] at hleading
  rw [LeadsAt, abs_of_pos hsize] at hlead
  have hgreatest : x.code ≤ infiniteCode - 1 := by
    rw [isFinite, decide_eq_true_eq] at hfinite
    exact Nat.le_sub_one_of_lt hfinite
  have h₁ := lt_of_ten_zpow_lt ((ten_zpow_lt_size hpos unitsPerOne_lt).trans hlead.2)
  have h₂ := lt_of_ten_zpow_lt
    (hlead.1.trans_lt (size_lt_ten_zpow hgreatest unitsOf_greatest_lt))
  have h₃ := lt_of_ten_zpow_lt (hleading.1.trans_lt (hmost.trans_lt
    (zpow_lt_zpow_right₀ (by norm_num) (lt_add_one _))))
  have h₄ := lt_of_ten_zpow_lt (hleast.trans_lt hleading.2)
  omega

theorem exponent_in_bound {x : Binary64} (hfinite : x.isFinite = true) (hpos : 0 < x.units) :
    x.shown.leading.natAbs < exponentBound := by
  have hbounds := leading_shown_bounds hfinite hpos
  rw [exponentBound]
  omega

theorem ofText?_packetText_of_isFinite {x : Binary64} (hfinite : x.isFinite = true)
    (hzero : x.isZero = false) :
    ∃ num den : ℕ, 0 < den ∧ (num : ℚ) / den = x.shown.value ∧
      ofText? (Text.trim x.packetText.toList) = some (ofRatio x.negative num den) := by
  have hpos := units_pos hzero
  have hdigits := shown_digits_pos hpos
  obtain ⟨hlow, hhigh⟩ := leading_shown_bounds hfinite hpos
  obtain ⟨c, r, read, hchars, hdigit, hread, hvalue⟩ :=
    exists_decimal?_packetChars (shown_digits_mod hpos) (exponent_in_bound hfinite hpos)
  have hreadDigits : 0 < read.digits := by
    refine Nat.pos_of_ne_zero fun hnone => ?_
    have hshown := Decimal.value_pos hdigits
    rw [← hvalue, Decimal.value, hnone, Nat.cast_zero, zero_mul] at hshown
    exact lt_irrefl _ hshown
  have hleading : read.leading = x.shown.leading := by
    have hshown := Decimal.leadsAt_leading hdigits
    rw [← hvalue] at hshown
    exact (Decimal.leadsAt_leading hreadDigits).unique hshown
  have hlimit : Decimal.rangeLimit = 400 := rfl
  obtain ⟨num, den, hden, hquotient, hnearest⟩ :=
    Decimal.nearest_spec hreadDigits (by omega) (by omega) x.negative
  refine ⟨num, den, hden, hquotient.trans hvalue, ?_⟩
  rw [packetText_of_isFinite hfinite hzero, String.toList_ofList,
    trim_signChars_append fun _ => Decimal.isBlank_of_mem_packetChars, signChars, hchars,
    ofText?_of_decimal? x.negative hdigit hread, hnearest]

theorem packetText_eq_iff {x w : Binary64} (hx : x.isFinite = true) (hxpos : 0 < x.units)
    (hw : w.isFinite = true) (hwpos : 0 < w.units) (hsign : w.negative = x.negative) :
    w.packetText = x.packetText ↔ RoundsTo 16 w.size x.shown.value := by
  have hxzero : x.isZero = false := by
    rw [isZero, beq_eq_false_iff_ne, ne_eq, ← units_eq_zero]
    omega
  have hwzero : w.isZero = false := by
    rw [isZero, beq_eq_false_iff_ne, ne_eq, ← units_eq_zero]
    omega
  constructor
  · intro h
    rw [packetText_of_isFinite hw hwzero, packetText_of_isFinite hx hxzero, String.ofList_inj,
      signChars, signChars, hsign, List.append_cancel_left_eq] at h
    obtain ⟨c, r, read, hchars, -, hread, hvalue⟩ := exists_decimal?_packetChars
      (shown_digits_mod hxpos) (exponent_in_bound hx hxpos)
    obtain ⟨c', r', read', hchars', -, hread', hvalue'⟩ := exists_decimal?_packetChars
      (shown_digits_mod hwpos) (exponent_in_bound hw hwpos)
    rw [← hchars] at hread
    rw [← hchars', h, hread] at hread'
    rw [← hvalue, Option.some.inj hread', hvalue', value_shown]
    exact (sixteen_spec hwpos).2.1
  · intro h
    rw [value_shown] at h
    have hsixteen : w.sixteen = x.sixteen :=
      Decimal.roundTo_eq_of_roundsTo (by decide) hwpos unitsPerOne_pos (sixteen_spec hxpos).1 h
    rw [packetText_of_isFinite hw hwzero, packetText_of_isFinite hx hxzero, shown, hsixteen,
      signChars, hsign]
    rfl

/-- The third greatest finite magnitude still shows less than what is read as an infinite number. -/
theorem shown_third_greatest_lt :
    1797693134862315 * 10 ^ 293 + 2 ^ 970 < 2 ^ 54 * 2 ^ 970 := by decide +kernel

theorem sixteen_third_greatest :
    (ofBits (infiniteCode - 3)).sixteen = ⟨1797693134862315, 293⟩ := by decide +kernel

theorem shown_value_lt {x : Binary64} (hpos : 0 < x.units) (h : x.code + 2 < infiniteCode) :
    x.shown.value < ((2 : ℚ) ^ 54 - 1) * 2 ^ 970 := by
  obtain ⟨y, hy⟩ : ∃ y, y = ofBits (infiniteCode - 3) := ⟨_, rfl⟩
  have hcode : x.code ≤ y.code := by
    have hcode' : y.code = infiniteCode - 3 := hy ▸ rfl
    omega
  have hunits : x.units ≤ y.units := by
    rw [units_eq_unitsOf, units_eq_unitsOf]
    exact unitsOf_mono hcode
  have hone : (0 : ℚ) < unitsPerOne := by exact_mod_cast unitsPerOne_pos
  have hsize : x.size ≤ y.size := div_le_div_of_nonneg_right (by exact_mod_cast hunits) hone.le
  have hshown := RoundsTo.mono (by decide) (size_pos hpos) hsize (sixteen_spec hpos).2.1
    (sixteen_spec (hpos.trans_le hunits)).2.1
  have hbelow : (1797693134862315 : ℚ) * 10 ^ 293 + 2 ^ 970 < 2 ^ 54 * 2 ^ 970 := by
    exact_mod_cast shown_third_greatest_lt
  have hvalue : Decimal.value ⟨1797693134862315, 293⟩ = 1797693134862315 * 10 ^ 293 := by
    rw [Decimal.value, zpow_ofNat, Nat.cast_ofNat]
  rw [← value_shown, hy, sixteen_third_greatest, hvalue] at hshown
  rw [sub_mul, one_mul]
  exact hshown.trans_lt (lt_sub_iff_add_lt.2 hbelow)

theorem ofText?_packetText_greatest (negative : Bool) :
    ofText? (Text.trim (packetText ⟨negative, infiniteCode - 1, by decide⟩).toList) =
        some (infinite negative) ∧
      ofText? (Text.trim (packetText ⟨negative, infiniteCode - 2, by decide⟩).toList) =
        some (infinite negative) := by
  cases negative <;> decide +kernel

/-- The two greatest finite magnitudes are read back as infinite numbers. -/
theorem isFinite_of_code_greatest {x w : Binary64} (hfinite : x.isFinite = true)
    (hgreatest : infiniteCode ≤ x.code + 2)
    (hread : ofText? (Text.trim x.packetText.toList) = some w) : w.isFinite = false := by
  obtain ⟨negative, code, hcode⟩ := x
  obtain ⟨hone, htwo⟩ := ofText?_packetText_greatest negative
  rw [isFinite, decide_eq_true_eq] at hfinite
  obtain rfl | rfl : code = infiniteCode - 1 ∨ code = infiniteCode - 2 := by
    dsimp only at hfinite hgreatest
    omega
  · rw [← Option.some.inj (hone.symm.trans hread)]
    rfl
  · rw [← Option.some.inj (htwo.symm.trans hread)]
    rfl

theorem size_nonneg (x : Binary64) : 0 ≤ x.size := by
  rw [size]
  positivity

theorem abs_value (x : Binary64) : |x.value| = x.size := by
  rw [value, abs_mul, abs_of_nonneg x.size_nonneg]
  split <;> simp

theorem not_roundsTo_zero {count : ℕ} {r : ℚ} : ¬ RoundsTo count 0 r := by
  rintro ⟨e, n, hlead, -⟩
  rw [LeadsAt, abs_zero] at hlead
  exact (ten_zpow_pos _).not_ge hlead.1

/-- A number of the same sign that is not farther from what is shown than the number itself shows
the same, unless that is a power of ten and it is too far below. -/
theorem packetText_eq_iff_of_closer {x w : Binary64} (hx : x.isFinite = true) (hpos : 0 < x.units)
    (hw : w.isFinite = true) (hsign : w.negative = x.negative)
    (hcloser : |x.shown.value - w.size| ≤ |x.shown.value - x.size|) :
    w.packetText = x.packetText ↔
      ¬ ∃ k : ℤ, RoundsTo 16 |x.value| (10 ^ k) ∧
        |w.value| < (10 : ℚ) ^ k - 10 ^ (k - 16) / 2 := by
  have hsize := size_pos hpos
  have hrounds := (sixteen_spec hpos).2.1
  rw [← value_shown] at hrounds
  have hwsize := hrounds.pos_of_closer (by decide) hsize hcloser
  have hwpos : 0 < w.units := by
    refine Nat.pos_of_ne_zero fun hnone => ?_
    rw [size, hnone, Nat.cast_zero, zero_div] at hwsize
    exact lt_irrefl _ hwsize
  rw [packetText_eq_iff hx hpos hw hwpos hsign, abs_value, abs_value]
  constructor
  · rintro h ⟨k, hk, hbelow⟩
    rw [hrounds.unique hk] at h
    exact (h.le_of_ten_zpow (by decide) hwsize).not_gt hbelow
  · intro h
    refine hrounds.of_closer (by decide) hsize hcloser fun k hk => ?_
    rw [hk] at hrounds
    exact not_lt.1 fun hbelow => h ⟨k, hrounds, hbelow⟩

/-- A finite number is read back with its sign. It comes back finite unless it is one of the two
greatest of its sign, and its text is then the same as before, with one exception: the number shows
a power of ten, and the nearest number to that is farther below it than half a unit of the sixteenth
digit that numbers have there. -/
theorem packetText_read_back {x : Binary64} (hfinite : x.isFinite = true) :
    ∃ w, ofText? (Text.trim x.packetText.toList) = some w ∧ w.negative = x.negative ∧
      (w.isFinite = true ↔ x.code + 2 < infiniteCode) ∧
      (w.isFinite = true → (w.packetText = x.packetText ↔
        ¬ ∃ k : ℤ, RoundsTo 16 |x.value| (10 ^ k) ∧
          |w.value| < (10 : ℚ) ^ k - 10 ^ (k - 16) / 2)) := by
  rcases Bool.eq_false_or_eq_true x.isZero with hzero | hzero
  · have hcode : x.code = 0 := beq_iff_eq.1 hzero
    have hunits : x.units = 0 := units_eq_zero.2 hcode
    have hwhole : x.isWhole = true := by rw [isWhole, hfinite, hunits, Nat.zero_mod]; rfl
    have hpart : x.wholePart = 0 := by rw [wholePart, hunits, Nat.zero_div]
    have hread := ofText?_packetText hwhole (hpart ▸ Nat.pow_pos (by decide))
    refine ⟨x, hread, rfl, iff_of_true hfinite ?_, fun _ => iff_of_true rfl ?_⟩
    · rw [hcode]
      decide
    · rintro ⟨k, hk, -⟩
      rw [abs_value, size, hunits, Nat.cast_zero, zero_div] at hk
      exact not_roundsTo_zero hk
  · have hpos := units_pos hzero
    obtain ⟨num, den, hden, hquotient, hread⟩ := ofText?_packetText_of_isFinite hfinite hzero
    refine ⟨_, hread, negative_ofRatio _ _ _, ⟨fun hw => ?_, fun hcode => ?_⟩, fun hw => ?_⟩
    · by_contra hgreatest
      rw [isFinite_of_code_greatest hfinite (Nat.le_of_not_lt hgreatest) hread] at hw
      cases hw
    · by_contra hw
      have hle := le_of_ofRatio_infinite hden (Bool.eq_false_iff.2 hw)
      rw [hquotient] at hle
      exact hle.not_gt (shown_value_lt hpos hcode)
    · have hcloser := ofRatio_closest hden hw x
      rw [hquotient] at hcloser
      exact packetText_eq_iff_of_closer hfinite hpos hw (negative_ofRatio _ _ _) hcloser

/-- One of the numbers that show a power of ten. -/
theorem packetText_read_back_of_hundredth :
    let x := ofBits 0x3F847AE147AE147B
    x.isFinite = true ∧ ∃ w, ofText? (Text.trim x.packetText.toList) = some w ∧
      w.negative = x.negative ∧ (w.isFinite = true ↔ x.code + 2 < infiniteCode) ∧
      (w.isFinite = true → (w.packetText = x.packetText ↔
        ¬ ∃ k : ℤ, RoundsTo 16 |x.value| (10 ^ k) ∧
          |w.value| < (10 : ℚ) ^ k - 10 ^ (k - 16) / 2)) :=
  ⟨by decide, packetText_read_back (by decide)⟩

/-- The number next above `10 ^ 23` shows that power, which is read as the number below; the
greatest number of all shows what is read as an infinite number. -/
theorem packetText_changes_of_power_of_ten :
    let x := ofBits 0x44B52D02C7E14AF7
    let y := ofBits 0x7FEFFFFFFFFFFFFF
    (x.isFinite = true ∧ x.packetText = "1e+23" ∧
      (ofText? (Text.trim x.packetText.toList)).map packetText = some "9.999999999999999e+22") ∧
    (y.isFinite = true ∧ ofText? (Text.trim y.packetText.toList) = some (infinite false)) := by
  decide +kernel

end Binary64
end RemoteDev
