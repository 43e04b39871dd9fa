import Mathlib
import RemoteDev.Binary64.Text
import RemoteDev.Proofs.Binary64.Basic
import RemoteDev.Proofs.Text.Numeral

/-! The last digits of a number, which are the digits behind a point. They continue the digits of
what is left of the number, and only the zeros at their end may be dropped. -/
namespace RemoteDev.Binary64

@[simp] theorem length_lastDigits (count n : ℕ) : (lastDigits count n).length = count := by
  induction count generalizing n with
  | zero => rfl
  | succ count ih => rw [lastDigits, List.length_append, ih, List.length_singleton]

theorem isDigit_of_mem_lastDigits {count n : ℕ} {c : Char} (h : c ∈ lastDigits count n) :
    c.isDigit = true := by
  induction count generalizing n with
  | zero => cases h
  | succ count ih =>
    rw [lastDigits, List.mem_append, List.mem_singleton] at h
    rcases h with h | rfl
    · exact ih h
    · refine Text.isDigit_of_mem_toDigits (n := n % 10) ?_
      rw [Nat.toDigits_of_lt_base (Nat.mod_lt n (by decide))]
      exact List.mem_singleton_self _

theorem lastDigits_mul_pow (count zeros n : ℕ) :
    lastDigits (count + zeros) (n * 10 ^ zeros) =
      lastDigits count n ++ List.replicate zeros '0' := by
  induction zeros with
  | zero => simp
  | succ zeros ih =>
    have hten : n * 10 ^ (zeros + 1) = n * 10 ^ zeros * 10 := by rw [Nat.pow_succ, Nat.mul_assoc]
    rw [← Nat.add_assoc, lastDigits, hten, Nat.mul_div_cancel _ (by decide), ih, Nat.mul_mod_left,
      List.replicate_succ', List.append_assoc]
    rfl

theorem toDigits_eq_append_lastDigits {count n : ℕ} (h : 0 < n / 10 ^ count) :
    Nat.toDigits 10 n = Nat.toDigits 10 (n / 10 ^ count) ++ lastDigits count n := by
  induction count generalizing n with
  | zero => simp [lastDigits]
  | succ count ih =>
    rw [Nat.pow_succ', ← Nat.div_div_eq_div_mul] at h ⊢
    have hten : 10 ≤ n := by
      by_contra hlt
      rw [Nat.div_eq_of_lt (Nat.not_le.1 hlt), Nat.zero_div] at h
      exact Nat.lt_irrefl 0 h
    rw [Nat.toDigits_of_base_le (by decide) hten, ih h, lastDigits, List.append_assoc]

theorem ofDigitChars_lastDigits (count n : ℕ) :
    Nat.ofDigitChars 10 (lastDigits count n) 0 = n % 10 ^ count := by
  induction count generalizing n with
  | zero => rw [lastDigits, Nat.pow_zero, Nat.mod_one, Nat.ofDigitChars_nil]
  | succ count ih =>
    have hdigit := Nat.mod_lt n (show 0 < 10 by decide)
    rw [lastDigits, Nat.ofDigitChars_append, ih, Nat.ofDigitChars_cons_digitChar_of_lt_ten hdigit,
      Nat.ofDigitChars_nil, Nat.pow_succ', Nat.mod_mul, Nat.add_comm]

theorem digitChar_ne_zero {n : ℕ} (h : n % 10 ≠ 0) : (n % 10).digitChar ≠ '0' := by
  have hlt := Nat.mod_lt n (show 0 < 10 by decide)
  generalize n % 10 = d at *
  interval_cases d
  · exact absurd rfl h
  all_goals decide

theorem getLast?_lastDigits {count n : ℕ} (h : n % 10 ≠ 0) :
    (lastDigits count n).getLast? ≠ some '0' := by
  cases count with
  | zero => simp [lastDigits]
  | succ count =>
    rw [lastDigits, List.getLast?_concat, ne_eq, Option.some.injEq]
    exact digitChar_ne_zero h

theorem getLast?_toDigits {n : ℕ} (h : n % 10 ≠ 0) :
    (Nat.toDigits 10 n).getLast? ≠ some '0' := by
  rw [Nat.toDigits_eq_if (by decide)]
  split
  case isTrue hlt =>
    rw [List.getLast?_singleton, ne_eq, Option.some.injEq, ← Nat.mod_eq_of_lt hlt]
    exact digitChar_ne_zero h
  case isFalse =>
    rw [List.getLast?_concat, ne_eq, Option.some.injEq]
    exact digitChar_ne_zero h

theorem point_notMem_of_isDigit {cs : List Char} (h : ∀ c ∈ cs, c.isDigit = true) : '.' ∉ cs :=
  fun hpoint => absurd (h _ hpoint) (by decide)

theorem point_notMem_signChars (x : Binary64) : '.' ∉ x.signChars := by
  unfold signChars
  split <;> decide

/-- What is dropped of a fraction are the zeros at its end, and the point if nothing is left. -/
theorem withoutFractionZeros_pointed {front fraction : List Char} (hfront : '.' ∉ front)
    (hpoint : '.' ∉ fraction) (hlast : fraction.getLast? ≠ some '0') (zeros : ℕ) :
    withoutFractionZeros (front ++ pointed (fraction ++ List.replicate zeros '0')) =
      front ++ pointed fraction := by
  have hzeros (cs : List Char) :
      (List.replicate zeros '0' ++ cs).dropWhile (· == '0') = cs.dropWhile (· == '0') :=
    List.dropWhile_append_of_pos (by simp)
  have hreverse : front.reverse.dropWhile (· == '.') = front.reverse := by
    rw [List.dropWhile_eq_self_iff]
    intro hlength hpoint
    exact hfront (List.mem_reverse.1 (beq_iff_eq.1 hpoint ▸ List.getElem_mem hlength))
  rcases List.eq_nil_or_concat fraction with rfl | ⟨init, last, rfl⟩
  · cases zeros with
    | zero => simp [withoutFractionZeros, pointed, hfront]
    | succ zeros =>
      simp only [withoutFractionZeros, List.nil_append, List.replicate_succ, pointed,
        List.contains_eq_mem, List.mem_append, List.mem_cons, true_or, or_true, decide_true,
        if_true, List.append_nil]
      rw [← List.replicate_succ, List.reverse_append, List.reverse_cons, List.reverse_replicate,
        List.append_assoc, hzeros, List.singleton_append, List.dropWhile_cons_of_neg (by decide),
        List.dropWhile_cons_of_pos (by decide), hreverse, List.reverse_reverse]
  · have hne (tail : List Char) : pointed (init.concat last ++ tail) =
        '.' :: (init.concat last ++ tail) := by
      cases init <;> rfl
    have hlast' : last ≠ '0' := by simpa using hlast
    have hpoint' : last ≠ '.' := by
      rintro rfl
      exact hpoint (by simp)
    have hwhole := hne []
    rw [List.append_nil] at hwhole
    rw [withoutFractionZeros, hne, hwhole, if_pos (by simp), List.concat_eq_append]
    simp only [List.reverse_append, List.reverse_cons, List.reverse_replicate, List.append_assoc,
      List.nil_append, List.cons_append, hzeros]
    rw [List.dropWhile_cons_of_neg (by simpa using hlast'),
      List.dropWhile_cons_of_neg (by simpa using hpoint')]
    simp

end RemoteDev.Binary64
