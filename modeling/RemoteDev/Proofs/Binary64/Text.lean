import Mathlib
import RemoteDev.Proofs.Binary64.Places

/-! Numbers are written in packets by visible characters. Whole numbers of at most sixteen digits
are written by their digits alone, and these are read back as the same number. -/
namespace RemoteDev

namespace Decimal

theorem packetChars_whole {m j : ℕ} (hm : 0 < m) (hsize : m * 10 ^ j < 10 ^ 16) :
    packetChars ⟨m, j⟩ = Nat.toDigits 10 (m * 10 ^ j) := by
  have hlength : digitCount m + j = digitCount (m * 10 ^ j) := by
    rw [digitCount, digitCount, toDigits_mul_pow hm, List.length_append, List.length_replicate]
  have hcount : digitCount (m * 10 ^ j) ≤ 16 := (digitCount_le_iff (by decide)).2 hsize
  have hfirst := digitCount_pos m
  have hpositional : NumberStyle.packet.positional (leading ⟨m, j⟩) = true := by
    simp only [NumberStyle.packet, leading, Bool.and_eq_true, decide_eq_true_eq]
    omega
  have hplaces : (-(j : ℤ)).toNat = 0 := by omega
  simp only [packetChars, hpositional, if_true, positionalChars, hplaces, Int.toNat_natCast,
    pow_zero, Nat.div_one]
  exact List.append_nil _

theorem mem_packetChars {d : Decimal} {c : Char} (h : c ∈ d.packetChars) :
    c.isDigit = true ∨ c ∈ ['.', 'e', '+', '-'] := by
  have hpointed {ds : List Char} (hds : c ∈ ds → c.isDigit = true)
      (hc : c ∈ Binary64.pointed ds) : c.isDigit = true ∨ c ∈ ['.', 'e', '+', '-'] := by
    cases ds with
    | nil => cases hc
    | cons first r =>
      rcases List.mem_cons.1 hc with rfl | hc
      · exact .inr (by decide)
      · exact .inl (hds hc)
  rw [packetChars] at h
  split at h
  · rcases List.mem_append.1 h with hc | hc
    · exact .inl (Text.isDigit_of_mem_toDigits hc)
    · exact hpointed Binary64.isDigit_of_mem_lastDigits hc
  · simp only [exponentialChars, NumberStyle.exponentText, List.mem_append, List.mem_cons] at h
    rcases h with (hc | hc) | rfl | (hc | hc) | hc
    · exact .inl (Text.isDigit_of_mem_toDigits (List.mem_of_mem_take hc))
    · exact hpointed (fun hc => Text.isDigit_of_mem_toDigits (List.mem_of_mem_drop hc)) hc
    · exact .inr (by decide)
    · simp only [NumberStyle.packet, if_true] at hc
      split at hc <;> rw [List.mem_singleton.1 hc] <;> exact .inr (by decide)
    · rw [(List.mem_replicate.1 hc).2]
      exact .inl (by decide)
    · exact .inl (Text.isDigit_of_mem_toDigits hc)

theorem isVisible_of_mem_packetChars {d : Decimal} {c : Char} (h : c ∈ d.packetChars) :
    Text.isVisible c = true := by
  rcases mem_packetChars h with hdigit | hmark
  · exact Text.isVisible_of_isDigit hdigit
  · exact List.all_eq_true.1 (by rfl) c hmark

theorem isBlank_of_mem_packetChars {d : Decimal} {c : Char} (h : c ∈ d.packetChars) :
    Text.isBlank c = false := by
  rcases mem_packetChars h with hdigit | hmark
  · exact Text.isBlank_of_isDigit hdigit
  · have hnone : ['.', 'e', '+', '-'].all (fun c => !Text.isBlank c) = true := by rfl
    simpa using List.all_eq_true.1 hnone c hmark

theorem packetChars_ne_nil (d : Decimal) : d.packetChars ≠ [] := by
  rw [packetChars]
  split
  · simp [positionalChars]
  · simp [exponentialChars]

end Decimal

namespace Binary64

theorem eq_minus_of_mem_signChars {x : Binary64} {c : Char} (h : c ∈ x.signChars) : c = '-' := by
  unfold signChars at h
  split at h
  · exact List.mem_singleton.1 h
  · cases h

theorem packetText_visible (x : Binary64) :
    x.packetText ≠ "" ∧ ∀ c ∈ x.packetText.toList, Text.isVisible c = true := by
  have hsigned : ∀ body : List Char, body ≠ [] → (∀ c ∈ body, Text.isVisible c = true) →
      String.ofList (x.signChars ++ body) ≠ "" ∧
        ∀ c ∈ (String.ofList (x.signChars ++ body)).toList, Text.isVisible c = true := by
    intro body hne hvisible
    rw [String.toList_ofList]
    refine ⟨by simp [← String.toList_inj, hne], fun c hc => ?_⟩
    rcases List.mem_append.1 hc with hc | hc
    · rw [eq_minus_of_mem_signChars hc]
      decide
    · exact hvisible c hc
  by_cases hnan : x.isNaN = true
  · rw [packetText, if_pos hnan]
    exact ⟨by decide, List.all_eq_true.1 (by rfl)⟩
  by_cases hinfinite : x.isInfinite = true
  · rw [packetText, if_neg hnan, if_pos hinfinite]
    exact hsigned ['i', 'n', 'f'] (List.cons_ne_nil _ _) (List.all_eq_true.1 rfl)
  by_cases hzero : x.isZero = true
  · rw [packetText, if_neg hnan, if_neg hinfinite, if_pos hzero]
    exact hsigned ['0'] (List.cons_ne_nil _ _) (List.all_eq_true.1 rfl)
  · rw [packetText_of_isFinite (isFinite_of_not hnan hinfinite) (Bool.eq_false_iff.2 hzero)]
    exact hsigned _ (Decimal.packetChars_ne_nil _) fun c => Decimal.isVisible_of_mem_packetChars

theorem packetText_of_isWhole {x : Binary64} (hwhole : x.isWhole = true)
    (hsize : x.wholePart < 10 ^ 16) :
    x.packetText = String.ofList (x.signChars ++ Nat.toDigits 10 x.wholePart) := by
  have hfinite : x.isFinite = true := by
    simp only [isWhole, Bool.and_eq_true] at hwhole
    exact hwhole.1
  have hunits := units_of_isWhole hwhole
  obtain ⟨hnan, hinfinite⟩ := isFinite_cases hfinite
  by_cases hzero : x.isZero = true
  · have hnone : x.wholePart = 0 := by
      rw [isZero, beq_iff_eq, ← units_eq_zero, hunits] at hzero
      exact (Nat.mul_eq_zero.1 hzero).resolve_right (Nat.ne_of_gt unitsPerOne_pos)
    simp only [packetText, hnan, hinfinite, hzero, hnone]
    rfl
  · have hpos := units_pos (Bool.eq_false_iff.2 hzero)
    rw [packetText_of_isFinite hfinite (Bool.eq_false_iff.2 hzero)]
    have hn : 0 < x.wholePart := Nat.pos_of_mul_pos_right (hunits ▸ hpos)
    have hcount : Decimal.digitCount x.wholePart ≤ 16 :=
      (Decimal.digitCount_le_iff (by decide)).2 hsize
    have hsixteen := Decimal.roundTo_mul hn unitsPerOne_pos hcount
    rw [← hunits] at hsixteen
    have hlt := (sixteen_spec hpos).1.2
    rw [sixteen, hsixteen] at hlt
    obtain ⟨m, j, hm, hvalue, hstrip⟩ := Decimal.exists_strip_whole hn hlt
    rw [shown, sixteen, hsixteen, hstrip, Decimal.packetChars_whole hm (hvalue ▸ hsize), ← hvalue]

theorem isDigit_eq (c : Char) : isDigit c = c.isDigit := by
  simp [isDigit, Char.isDigit, Char.le_def]

theorem digitsValue_eq (ds : List Char) : digitsValue ds = Nat.ofDigitChars 10 ds 0 := by
  simp only [digitsValue, Nat.ofDigitChars_eq_foldl, Nat.mul_comm 10]
  rfl

theorem decimal?_toDigits (n : Nat) : decimal? (Nat.toDigits 10 n) = some ⟨n, 0⟩ := by
  have hall : ∀ c ∈ Nat.toDigits 10 n, isDigit c = true := by
    intro c hc
    rw [isDigit_eq]
    exact Text.isDigit_of_mem_toDigits hc
  have htake : (Nat.toDigits 10 n).takeWhile isDigit = Nat.toDigits 10 n :=
    List.takeWhile_eq_self_iff.2 hall
  have hdrop : (Nat.toDigits 10 n).dropWhile isDigit = [] := List.dropWhile_eq_nil_iff.2 hall
  have hempty : (Nat.toDigits 10 n).isEmpty = false := by simp
  simp only [decimal?, htake, hdrop, hempty, List.append_nil, digitsValue_eq,
    Nat.ofDigitChars_ten_toDigits]
  rfl

theorem toLower_of_isDigit {c : Char} (h : c.isDigit = true) : c.toLower = c := by
  have hc := (Text.isDigit_iff_toNat c).1 h
  refine Char.toLower_eq_of_not_isUpper ?_
  simp [Char.isUpper, UInt32.le_iff_toNat_le]
  omega

theorem lowered_ne_of_isDigit {c : Char} (hc : c.isDigit = true) (r : List Char) {name : String}
    {d : Char} {t : List Char} (hname : name.toList = d :: t) (hd : d.isDigit = false) :
    (String.ofList ((c :: r).map Char.toLower) == name) = false := by
  rw [beq_eq_false_iff_ne]
  intro h
  rw [← h, String.toList_ofList, List.map_cons, toLower_of_isDigit hc] at hname
  rw [(List.cons.inj hname).1, hd] at hc
  cases hc

/-- A sign and what begins with a digit are read as a decimal. -/
theorem ofText?_of_decimal? (negative : Bool) {c : Char} {r : List Char} {d : Decimal}
    (hdigit : c.isDigit = true) (hdecimal : decimal? (c :: r) = some d) :
    ofText? ((if negative then ['-'] else []) ++ c :: r) =
      some (Decimal.nearest negative d) := by
  have hinf : (String.ofList ((c :: r).map Char.toLower) == "inf") = false :=
    lowered_ne_of_isDigit hdigit r rfl (by decide)
  have hinfinity : (String.ofList ((c :: r).map Char.toLower) == "infinity") = false :=
    lowered_ne_of_isDigit hdigit r rfl (by decide)
  have hnan : (String.ofList ((c :: r).map Char.toLower) == "nan") = false :=
    lowered_ne_of_isDigit hdigit r rfl (by decide)
  have hsign : ∀ {d : Char} {s : List Char}, d.isDigit = false → c :: r ≠ d :: s := by
    intro d s hd h
    rw [(List.cons.inj h).1, hd] at hdigit
    cases hdigit
  unfold ofText?
  cases negative with
  | true =>
    simp only [if_true, List.singleton_append, hinf, hinfinity, hnan, hdecimal]
    rfl
  | false =>
    simp only [Bool.false_eq_true, if_false, List.nil_append]
    split
    case h_1 h => exact absurd h (hsign (by decide))
    case h_2 h => exact absurd h (hsign (by decide))
    case h_3 =>
      simp only [hinf, hinfinity, hnan, hdecimal]
      rfl

theorem ofText?_toDigits (negative : Bool) (n : Nat) :
    ofText? ((if negative then ['-'] else []) ++ Nat.toDigits 10 n) =
      some (Decimal.nearest negative ⟨n, 0⟩) := by
  have hdecimal := decimal?_toDigits n
  obtain ⟨c, r, hcons⟩ := List.exists_cons_of_ne_nil (Nat.toDigits_ne_nil (n := n) (b := 10))
  have hdigit : c.isDigit = true :=
    Text.isDigit_of_mem_toDigits (n := n) (hcons ▸ List.mem_cons_self)
  rw [hcons] at hdecimal ⊢
  exact ofText?_of_decimal? negative hdigit hdecimal

/-- The decimal of a whole number is nearest to the number itself. -/
theorem nearest_wholePart {x : Binary64} (hwhole : x.isWhole = true)
    (hsize : x.wholePart < 10 ^ 16) : Decimal.nearest x.negative ⟨x.wholePart, 0⟩ = x := by
  have hfinite : x.isFinite = true := by
    simp only [isWhole, Bool.and_eq_true] at hwhole
    exact hwhole.1
  have hunits := units_of_isWhole hwhole
  have hcode := nearestCode_units hfinite
  have hcount : Decimal.digitCount x.wholePart ≤ 16 :=
    (Decimal.digitCount_le_iff (by decide)).2 hsize
  unfold Decimal.nearest
  dsimp only
  split
  case isTrue h =>
    have hzero : x.wholePart = 0 := by
      rcases h with h | h
      · exact h
      · simp only [Decimal.rangeLimit] at h
        omega
    rw [hzero, Nat.zero_mul, units_eq_zero] at hunits
    obtain ⟨negative, code, hlt⟩ := x
    cases hunits
    rfl
  case isFalse =>
    rw [if_neg (by simp only [Decimal.rangeLimit]; omega), if_pos (Int.le_refl 0)]
    obtain ⟨negative, code, hlt⟩ := x
    simp only [ofRatio, Binary64.mk.injEq, true_and]
    rw [Int.toNat_zero, Nat.pow_eq, Nat.pow_zero, Nat.mul_one, ← hunits]
    exact hcode

theorem trim_signChars_append {x : Binary64} {body : List Char}
    (h : ∀ c ∈ body, Text.isBlank c = false) :
    Text.trim (x.signChars ++ body) = x.signChars ++ body := by
  refine Text.trim_of_not_isBlank fun c hc => ?_
  rcases List.mem_append.1 hc with hsign | hbody
  · rw [eq_minus_of_mem_signChars hsign]
    decide
  · exact h c hbody

theorem ofText?_packetText {x : Binary64} (hwhole : x.isWhole = true)
    (hsize : x.wholePart < 10 ^ 16) : ofText? (Text.trim x.packetText.toList) = some x := by
  have hblank : ∀ c ∈ Nat.toDigits 10 x.wholePart, Text.isBlank c = false :=
    fun c hc => Text.isBlank_of_isDigit (Text.isDigit_of_mem_toDigits hc)
  rw [packetText_of_isWhole hwhole hsize, String.toList_ofList, trim_signChars_append hblank,
    signChars, ofText?_toDigits, nearest_wholePart hwhole hsize]

end Binary64
end RemoteDev
