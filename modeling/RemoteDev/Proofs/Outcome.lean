import Mathlib.Data.List.Forall2

/-! Outcomes in sequence: a computation succeeds exactly if each of its parts does. -/
namespace RemoteDev

variable {ε ε' α β : Type}

theorem ok_bind (a : α) (next : α → Except ε β) : (Except.ok a >>= next) = next a := rfl

theorem bind_eq_ok {outcome : Except ε α} {next : α → Except ε β} {b : β} :
    (outcome >>= next) = .ok b ↔ ∃ a, outcome = .ok a ∧ next a = .ok b := by
  cases outcome with
  | error e => simp [bind, Except.bind]
  | ok a => simp [bind, Except.bind]

theorem map_eq_ok {outcome : Except ε α} {f : α → β} {b : β} :
    outcome.map f = .ok b ↔ ∃ a, outcome = .ok a ∧ f a = b := by
  cases outcome <;> simp [Except.map]

theorem mapError_eq_ok {outcome : Except ε α} {f : ε → ε'} {a : α} :
    outcome.mapError f = .ok a ↔ outcome = .ok a := by
  cases outcome <;> simp [Except.mapError]

theorem exists_mapError_eq_error {outcome : Except ε α} (f : ε → ε') (h : ∀ a, outcome ≠ .ok a) :
    ∃ e, outcome.mapError f = .error (f e) := by
  cases outcome with
  | error e => exact ⟨e, rfl⟩
  | ok a => exact absurd rfl (h a)

theorem toOption_eq_some_iff {outcome : Except ε α} {a : α} :
    outcome.toOption = some a ↔ outcome = .ok a := by
  cases outcome <;> simp [Except.toOption]

theorem exists_of_mem_mapM {f : α → Except ε β} {xs : List α} {ys : List β}
    (h : xs.mapM f = .ok ys) {y : β} (hy : y ∈ ys) : ∃ x ∈ xs, f x = .ok y := by
  induction xs generalizing ys with
  | nil =>
    cases h
    exact absurd hy List.not_mem_nil
  | cons x r ih =>
    rw [List.mapM_cons] at h
    obtain ⟨z, hz, h⟩ := bind_eq_ok.1 h
    obtain ⟨zs, hzs, h⟩ := bind_eq_ok.1 h
    cases h
    rcases List.mem_cons.1 hy with rfl | hy
    · exact ⟨x, List.mem_cons_self, hz⟩
    · obtain ⟨x', hx', hfx'⟩ := ih hzs hy
      exact ⟨x', List.mem_cons_of_mem x hx', hfx'⟩

theorem mapM_eq_ok_iff {f : α → Except ε β} {xs : List α} {ys : List β} :
    xs.mapM f = .ok ys ↔ List.Forall₂ (fun x y => f x = .ok y) xs ys := by
  induction xs generalizing ys with
  | nil =>
    rw [List.mapM_nil, List.forall₂_nil_left_iff]
    exact ⟨fun h => (Except.ok.inj h).symm, fun h => h ▸ rfl⟩
  | cons x r ih =>
    rw [List.mapM_cons, bind_eq_ok, List.forall₂_cons_left_iff]
    constructor
    · rintro ⟨y, hy, h⟩
      obtain ⟨ys', hys', h⟩ := bind_eq_ok.1 h
      cases h
      exact ⟨y, ys', hy, ih.1 hys', rfl⟩
    · rintro ⟨y, ys', hy, hys', rfl⟩
      exact ⟨y, hy, bind_eq_ok.2 ⟨ys', ih.2 hys', rfl⟩⟩

theorem mapM_eq_error_iff {f : α → Except ε β} {xs : List α} {e : ε} :
    xs.mapM f = .error e ↔ ∃ front x rest, xs = front ++ x :: rest ∧
      (∀ a ∈ front, ∃ b, f a = .ok b) ∧ f x = .error e := by
  induction xs with
  | nil => 
    constructor
    · intro h
      cases h
    · rintro ⟨front, x, rest, h, -⟩
      exact absurd h.symm (by simp)
  | cons x r ih =>
    rw [List.mapM_cons]
    cases hx : f x with
    | error e' =>
      constructor
      · intro h
        cases h
        exact ⟨[], x, r, rfl, nofun, hx⟩
      · rintro ⟨front, y, rest, hlist, hfront, hy⟩
        cases front with
        | nil =>
          cases hlist
          cases hx.symm.trans hy
          rfl
        | cons a front =>
          cases hlist
          obtain ⟨b, hb⟩ := hfront x List.mem_cons_self
          cases hx.symm.trans hb
    | ok b =>
      have hrest : (do let b ← Except.ok b; let bs ← r.mapM f; pure (b :: bs)) = .error e ↔
          r.mapM f = .error e := by
        cases r.mapM f <;> simp [bind, Except.bind, pure, Except.pure]
      rw [hrest, ih]
      constructor
      · rintro ⟨front, y, rest, rfl, hfront, hy⟩
        exact ⟨x :: front, y, rest, rfl, List.forall_mem_cons.2 ⟨⟨b, hx⟩, hfront⟩, hy⟩
      · rintro ⟨front, y, rest, hlist, hfront, hy⟩
        cases front with
        | nil =>
          cases hlist
          cases hx.symm.trans hy
        | cons a front =>
          cases hlist
          exact ⟨front, y, rest, rfl, (List.forall_mem_cons.1 hfront).2, hy⟩

theorem isOk_eq_false_iff {outcome : Except ε α} :
    outcome.isOk = false ↔ ∃ e, outcome = .error e := by
  cases outcome <;> simp [Except.isOk, Except.toBool]

theorem exists_error_iff {outcome : Except ε α} :
    (∃ e, outcome = .error e) ↔ ∀ a, outcome ≠ .ok a := by
  cases outcome <;> simp

@[simp] theorem isOk_ok (a : α) : (Except.ok a : Except ε α).isOk = true := rfl

@[simp] theorem isOk_error (e : ε) : (Except.error e : Except ε α).isOk = false := rfl

@[simp] theorem isOk_map (f : α → β) (outcome : Except ε α) :
    (outcome.map f).isOk = outcome.isOk := by cases outcome <;> rfl

@[simp] theorem isOk_mapError (f : ε → ε') (outcome : Except ε α) :
    (outcome.mapError f).isOk = outcome.isOk := by cases outcome <;> rfl

@[simp] theorem isOk_functor_map (f : α → β) (outcome : Except ε α) :
    (f <$> outcome).isOk = outcome.isOk := by cases outcome <;> rfl

theorem isOk_bind_of_forall {outcome : Except ε α} {next : α → Except ε β} (fits : Bool)
    (h : ∀ a, (next a).isOk = fits) : (outcome >>= next).isOk = (outcome.isOk && fits) := by
  cases outcome with
  | error e => rfl
  | ok a => exact (h a).trans (Bool.true_and fits).symm

end RemoteDev
