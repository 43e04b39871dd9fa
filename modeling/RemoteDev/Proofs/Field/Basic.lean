import RemoteDev.Field.Reader
import RemoteDev.Proofs.Outcome

/-! Runs of field readers: what one reader after another takes, and what a single field is. -/
namespace RemoteDev.FieldReader

variable {α β : Type} {reader : FieldReader α} {next : α → FieldReader β}

theorem run_bind_of_ok {data rest : Bytes} {a : α} (h : reader.run data = .ok (a, rest)) :
    (reader >>= next).run data = (next a).run rest := by
  rw [StateT.run_bind, h]
  rfl

theorem run_bind_of_error {data : Bytes} {e : FieldError} (h : reader.run data = .error e) :
    (reader >>= next).run data = .error e := by
  rw [StateT.run_bind, h]
  rfl

theorem run_bind_eq_ok {data rest : Bytes} {b : β} :
    (reader >>= next).run data = .ok (b, rest) ↔
      ∃ a mid, reader.run data = .ok (a, mid) ∧ (next a).run mid = .ok (b, rest) := by
  constructor
  · intro h
    cases hr : reader.run data with
    | error e => rw [run_bind_of_error hr] at h; cases h
    | ok p =>
      obtain ⟨a, mid⟩ := p
      rw [run_bind_of_ok hr] at h
      exact ⟨a, mid, rfl, h⟩
  · rintro ⟨a, mid, hr, hn⟩
    rw [run_bind_of_ok hr, hn]

theorem repeated_succ_eq_ok {data rest : Bytes} {n : Nat} {xs : List α} :
    (reader.repeated (n + 1)).run data = .ok (xs, rest) ↔
      ∃ x mid others, reader.run data = .ok (x, mid) ∧
        (reader.repeated n).run mid = .ok (others, rest) ∧ xs = x :: others := by
  constructor
  · intro h
    obtain ⟨x, mid, hx, h⟩ := run_bind_eq_ok.1 h
    obtain ⟨others, last, hothers, hpure⟩ := run_bind_eq_ok.1 h
    cases hpure
    exact ⟨x, mid, others, hx, hothers, rfl⟩
  · rintro ⟨x, mid, others, hx, hothers, rfl⟩
    rw [repeated, run_bind_of_ok hx, run_bind_of_ok hothers]
    rfl

theorem repeated_cons {data mid rest : Bytes} {n : Nat} {x : α} {xs : List α}
    (hx : reader.run data = .ok (x, mid)) (hxs : (reader.repeated n).run mid = .ok (xs, rest)) :
    (reader.repeated (n + 1)).run data = .ok (x :: xs, rest) :=
  repeated_succ_eq_ok.2 ⟨x, mid, xs, hx, hxs, rfl⟩

theorem number_eq_ok {data rest : Bytes} {n : Int} :
    number.run data = .ok (n, rest) ↔
      ∃ digits, splitColon data = some (digits, rest) ∧ numeral digits = .ok n := by
  constructor
  · intro h
    simp only [number, StateT.run] at h
    split at h
    case h_1 => cases h
    case h_2 digits after hsplit =>
      split at h
      case h_1 m hm =>
        cases h
        exact ⟨digits, hsplit, hm⟩
      case h_2 => cases h
  · rintro ⟨digits, hsplit, hn⟩
    simp only [number, StateT.run, hsplit, hn]

theorem bytes_of_number {data rest : Bytes} {n : Int}
    (h : number.run (dropTag data) = .ok (n, rest)) :
    bytes.run data =
      if n < 0 then .error (.negativeLength n)
      else if rest.length < n.toNat then .error (.truncated n.toNat rest.length)
      else .ok (rest.take n.toNat, rest.drop n.toNat) := by
  simp only [StateT.run] at h
  simp only [bytes, StateT.run, h]
  by_cases hn : n < 0
  · simp [hn, bind, Except.bind, throw, throwThe, MonadExceptOf.throw]
  · by_cases hl : rest.length < n.toNat
    · have hl' : min n.toNat rest.length < n.toNat := by omega
      simp [hn, hl, hl', bind, Except.bind, throw, throwThe, MonadExceptOf.throw]
    · have hl' : ¬ min n.toNat rest.length < n.toNat := by omega
      simp [hn, hl, hl', bind, Except.bind, pure, Except.pure]

theorem bytes_of_number_error {data : Bytes} {e : FieldError}
    (h : number.run (dropTag data) = .error e) : bytes.run data = .error e := by
  simp only [StateT.run] at h
  simp only [bytes, StateT.run, h]
  rfl

theorem bytes_eq_ok {data field rest : Bytes} :
    bytes.run data = .ok (field, rest) ↔
      number.run (dropTag data) = .ok ((field.length : Int), field ++ rest) := by
  constructor
  · intro h
    cases hn : number.run (dropTag data) with
    | error e => rw [bytes_of_number_error hn] at h; cases h
    | ok p =>
      obtain ⟨n, after⟩ := p
      rw [bytes_of_number hn] at h
      split at h
      · cases h
      · split at h
        · cases h
        · simp only [Except.ok.injEq, Prod.mk.injEq] at h
          obtain ⟨rfl, rfl⟩ := h
          have hlength : ((after.take n.toNat).length : Int) = n := by
            rw [List.length_take]
            omega
          rw [hlength, List.take_append_drop]
  · intro h
    rw [bytes_of_number h, if_neg (by omega), Int.toNat_natCast, List.length_append,
      if_neg (by omega), List.take_left, List.drop_left]

theorem suffix_of_bytes {data field rest : Bytes} (h : bytes.run data = .ok (field, rest)) :
    rest <:+ data := by
  obtain ⟨digits, hsplit, -⟩ := number_eq_ok.1 (bytes_eq_ok.1 h)
  have hdropped : rest <:+ dropTag data := by
    rw [(splitColon_eq_some_iff.1 hsplit).1]
    exact ⟨digits ++ colon :: field, by simp⟩
  have hdata : dropTag data <:+ data := by
    unfold dropTag
    split
    · exact List.drop_suffix _ _
    · exact List.suffix_refl _
  exact hdropped.trans hdata

theorem suffix_of_repeated_bytes {n : Nat} {data rest : Bytes} {fields : List Bytes}
    (h : (bytes.repeated n).run data = .ok (fields, rest)) : rest <:+ data := by
  induction n generalizing data fields with
  | zero =>
    cases h
    exact List.suffix_refl _
  | succ n ih =>
    obtain ⟨field, mid, others, hfield, hothers, rfl⟩ := repeated_succ_eq_ok.1 h
    exact (ih hothers).trans (suffix_of_bytes hfield)

end RemoteDev.FieldReader
