import Mathlib.Data.List.Infix
import RemoteDev.Text.Basic

/-! Lists with a separator in them. Splitting finds the first place of the separator if there is
one, and the stretches are what stands between all of its places. What stands before and after the
first is determined by the whole; so is what stands before and after a separator that cannot overlap
itself, if it does not stand in the front. -/
namespace RemoteDev

variable {α : Type} {d : α} {separator xs ys s t : List α}

theorem eq_nil_of_append_separator {front : List α} (hd : d ∉ separator)
    (hfront : ¬ (d :: separator) <:+: front)
    (h : d :: separator ++ s = front ++ (d :: separator ++ t)) : front = [] := by
  rcases List.append_eq_append_iff.1 h with ⟨more, hmore, -⟩ | ⟨rest, hrest, htail⟩
  · -- the separator stands at the beginning of the front
    exact absurd (hmore ▸ (List.prefix_append (d :: separator) more).isInfix) hfront
  · cases front with
    | nil => rfl
    | cons a front =>
      rw [List.cons_append, List.cons.injEq] at hrest
      cases rest with
      | nil =>
        rw [List.append_nil] at hrest
        exact absurd (hrest.1 ▸ hrest.2 ▸ List.infix_rfl) hfront
      | cons b rest =>
        rw [List.cons_append, List.cons_append, List.cons.injEq] at htail
        exact absurd (by rw [hrest.2, htail.1]; simp) hd

theorem append_separator_inj (hd : d ∉ separator) (hxs : ¬ (d :: separator) <:+: xs)
    (hys : ¬ (d :: separator) <:+: ys)
    (h : xs ++ (d :: separator ++ s) = ys ++ (d :: separator ++ t)) : xs = ys ∧ s = t := by
  have hfront : xs = ys := by
    rcases List.append_eq_append_iff.1 h with ⟨more, rfl, hmore⟩ | ⟨more, rfl, hmore⟩
    · have hnil := eq_nil_of_append_separator hd
        (fun hin => hys (hin.trans (List.suffix_append xs more).isInfix)) hmore
      rw [hnil, List.append_nil]
    · have hnil := eq_nil_of_append_separator hd
        (fun hin => hxs (hin.trans (List.suffix_append ys more).isInfix)) hmore
      rw [hnil, List.append_nil]
  subst hfront
  exact ⟨rfl, List.append_cancel_left (List.append_cancel_left h)⟩

theorem append_cons_inj (hxs : d ∉ xs) (hys : d ∉ ys) (h : xs ++ d :: s = ys ++ d :: t) :
    xs = ys ∧ s = t := by
  have hsingle {zs : List α} (hzs : d ∉ zs) : ¬ [d] <:+: zs :=
    fun hin => hzs (hin.subset List.mem_cons_self)
  exact append_separator_inj List.not_mem_nil (hsingle hxs) (hsingle hys) h

/-- A list with a separator in it, split where no other place of the separator begins earlier. -/
structure FirstPlace (separator xs front rest : List α) : Prop where
  whole : xs = front ++ separator ++ rest
  first {earlier : List α} (h : earlier ++ separator <+: xs) : front.length ≤ earlier.length

theorem FirstPlace.unique {front front' rest rest' : List α}
    (h : FirstPlace separator xs front rest) (h' : FirstPlace separator xs front' rest') :
    front = front' ∧ rest = rest' := by
  have hplace : front ++ separator <+: xs := h.whole ▸ List.prefix_append _ rest
  have hplace' : front' ++ separator <+: xs := h'.whole ▸ List.prefix_append _ rest'
  have hlength : front.length = front'.length := Nat.le_antisymm (h.first hplace') (h'.first hplace)
  have heq : front ++ (separator ++ rest) = front' ++ (separator ++ rest') := by
    rw [← List.append_assoc, ← List.append_assoc, ← h.whole, ← h'.whole]
  obtain ⟨rfl, htail⟩ := List.append_inj heq hlength
  exact ⟨rfl, List.append_cancel_left htail⟩

section SplitAtFirst

variable [BEq α] [LawfulBEq α]

theorem splitAtFirst_eq_none_iff : splitAtFirst separator xs = none ↔ ¬ separator <:+: xs := by
  induction xs with
  | nil => simp [splitAtFirst]
  | cons a r ih =>
    rw [splitAtFirst, List.infix_cons_iff, ← List.isPrefixOf_iff_prefix]
    by_cases hp : separator.isPrefixOf (a :: r) = true
    · simp [hp]
    · simp [hp, ih]

theorem firstPlace_of_splitAtFirst {front rest : List α}
    (h : splitAtFirst separator xs = some (front, rest)) : FirstPlace separator xs front rest := by
  refine ⟨eq_of_splitAtFirst h, ?_⟩
  induction xs generalizing front with
  | nil =>
    have hnil := eq_of_splitAtFirst h
    simp_all
  | cons a r ih =>
    intro earlier hearlier
    rw [splitAtFirst] at h
    split at h
    case isTrue =>
      simp only [Option.some.injEq, Prod.mk.injEq] at h
      rw [← h.1]
      exact Nat.zero_le _
    case isFalse hp =>
      obtain ⟨⟨front', rest'⟩, hr, heq⟩ := Option.map_eq_some_iff.1 h
      simp only [Prod.mk.injEq] at heq
      obtain ⟨rfl, rfl⟩ := heq
      cases earlier with
      | nil => exact absurd (List.isPrefixOf_iff_prefix.2 hearlier) hp
      | cons b earlier =>
        rw [List.cons_append, List.cons_prefix_cons] at hearlier
        exact Nat.succ_le_succ (ih hr hearlier.2)

theorem splitAtFirst_eq_some_iff {front rest : List α} :
    splitAtFirst separator xs = some (front, rest) ↔ FirstPlace separator xs front rest := by
  refine ⟨firstPlace_of_splitAtFirst, fun h => ?_⟩
  cases hsplit : splitAtFirst separator xs with
  | none =>
    have hplace : separator <:+: xs := ⟨front, rest, h.whole.symm⟩
    exact absurd hplace (splitAtFirst_eq_none_iff.1 hsplit)
  | some found =>
    obtain ⟨rfl, rfl⟩ := (firstPlace_of_splitAtFirst hsplit).unique h
    rfl

theorem splitAtFirst_append_cons {front : List α} (h : d ∉ front) (rest : List α) :
    splitAtFirst [d] (front ++ d :: rest) = some (front, rest) := by
  induction front with
  | nil => simp [splitAtFirst]
  | cons a r ih =>
    rw [List.mem_cons, not_or] at h
    have hbegins : List.isPrefixOf [d] (a :: (r ++ d :: rest)) = false := by
      simp [List.isPrefixOf, h.1]
    rw [List.cons_append, splitAtFirst, hbegins, if_neg Bool.false_ne_true, ih h.2]
    rfl

theorem splitAtFirst_singleton_eq_some_iff {front rest : List α} :
    splitAtFirst [d] xs = some (front, rest) ↔ xs = front ++ d :: rest ∧ d ∉ front := by
  constructor
  · intro h
    have hplace := firstPlace_of_splitAtFirst h
    have hwhole : xs = front ++ d :: rest := by
      rw [hplace.whole, List.append_assoc, List.singleton_append]
    refine ⟨hwhole, fun hmem => ?_⟩
    obtain ⟨earlier, between, rfl⟩ := List.append_of_mem hmem
    have hearlier : earlier ++ [d] <+: xs := ⟨between ++ d :: rest, by simp [hwhole]⟩
    have hshorter := hplace.first hearlier
    rw [List.length_append, List.length_cons] at hshorter
    omega
  · rintro ⟨rfl, hd⟩
    exact splitAtFirst_append_cons hd rest

end SplitAtFirst

theorem takeWhile_append_of_head? {p : α → Bool} (hs : ∀ a ∈ s, p a = true)
    (ht : ∀ a ∈ t.head?, p a = false) :
    (s ++ t).takeWhile p = s ∧ (s ++ t).dropWhile p = t := by
  rw [List.takeWhile_append_of_pos hs, List.dropWhile_append_of_pos hs]
  cases t with
  | nil => simp
  | cons a r => simp [ht a rfl]

section Stretches

variable [DecidableEq α] {separator : α}

theorem stretches_of_not_mem (h : separator ∉ xs) : stretches separator xs = [xs] := by
  induction xs with
  | nil => rfl
  | cons x r ih =>
    rw [List.mem_cons, not_or] at h
    rw [stretches, if_neg (fun e => h.1 e.symm), ih h.2]

theorem stretches_append_cons {front : List α} (h : separator ∉ front) (rest : List α) :
    stretches separator (front ++ separator :: rest) = front :: stretches separator rest := by
  induction front with
  | nil => rw [List.nil_append, stretches, if_pos rfl]
  | cons x r ih =>
    rw [List.mem_cons, not_or] at h
    rw [List.cons_append, stretches, if_neg (fun e => h.1 e.symm), ih h.2]

theorem stretches_append {front stretch : List α} {rest : List (List α)} (h : separator ∉ front)
    (hxs : stretches separator xs = stretch :: rest) :
    stretches separator (front ++ xs) = (front ++ stretch) :: rest := by
  induction front with
  | nil => exact hxs
  | cons x r ih =>
    rw [List.mem_cons, not_or] at h
    rw [List.cons_append, stretches, if_neg (fun e => h.1 e.symm), ih h.2]
    rfl

theorem mem_of_mem_stretches {a : α} {stretch : List α}
    (h : stretch ∈ stretches separator xs) (ha : a ∈ stretch) : a ∈ xs := by
  induction xs generalizing stretch with
  | nil =>
    rw [stretches, List.mem_singleton] at h
    rw [h] at ha
    exact absurd ha List.not_mem_nil
  | cons x r ih =>
    rw [stretches] at h
    split at h
    · rcases List.mem_cons.1 h with rfl | h
      · exact absurd ha List.not_mem_nil
      · exact List.mem_cons_of_mem x (ih h ha)
    · split at h
      case h_1 hnil => exact absurd hnil (stretches_ne_nil separator r)
      case h_2 first rest hcons =>
        rcases List.mem_cons.1 h with rfl | h
        · rcases List.mem_cons.1 ha with rfl | ha
          · exact List.mem_cons_self
          · exact List.mem_cons_of_mem x (ih (hcons ▸ List.mem_cons_self) ha)
        · exact List.mem_cons_of_mem x (ih (hcons ▸ List.mem_cons_of_mem first h) ha)

theorem stretches_eq_splitOn (separator : α) (xs : List α) :
    stretches separator xs = xs.splitOn separator := by
  induction xs with
  | nil => rfl
  | cons a r ih =>
    rw [stretches, ih, List.splitOn_cons_eq_if_modifyHead]
    by_cases ha : a = separator
    · simp [ha]
    · rw [if_neg ha, if_neg (by simpa using ha)]
      cases hr : r.splitOn separator with
      | nil => exact absurd hr (List.splitOn_ne_nil separator r)
      | cons first rest => rfl

end Stretches

end RemoteDev
