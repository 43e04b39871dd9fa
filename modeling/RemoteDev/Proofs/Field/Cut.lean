import RemoteDev.Proofs.Field.Basic
import RemoteDev.Record.Grid

/-! Readers on data that is cut short. Reading the beginning of data that can be read either
gives the same value and leaves less behind it, or fails for want of bytes; and a reader's fields
are those that as many plain field reads take. Both carry over to readers made of readers. -/
namespace RemoteDev

/-- The errors that missing bytes cause. -/
def FieldError.IsCut (e : FieldError) : Prop :=
  e = .unterminatedNumber ∨ ∃ declared remaining, e = .truncated declared remaining

namespace FieldReader

variable {α β : Type} {reader : FieldReader α} {next : α → FieldReader β}

theorem splitColon_append_right {data digits rest : Bytes} (more : Bytes)
    (h : splitColon data = some (digits, rest)) :
    splitColon (data ++ more) = some (digits, rest ++ more) := by
  obtain ⟨rfl, hcolon⟩ := splitColon_eq_some_iff.1 h
  rw [List.append_assoc, List.cons_append]
  exact splitColon_append hcolon _

/-- A number that can be read off longer data either stands in the data or has no colon yet. -/
theorem number_cut {front more rest : Bytes} {n : Int}
    (h : number.run (front ++ more) = .ok (n, rest)) :
    (∃ rest', number.run front = .ok (n, rest') ∧ rest = rest' ++ more) ∨
      number.run front = .error .unterminatedNumber := by
  obtain ⟨digits, hsplit, hn⟩ := number_eq_ok.1 h
  cases hfront : splitColon front with
  | none =>
    right
    simp only [number, StateT.run, hfront]
  | some p =>
    obtain ⟨digits', rest'⟩ := p
    have hlonger := splitColon_append_right more hfront
    rw [hsplit, Option.some.injEq, Prod.mk.injEq] at hlonger
    obtain ⟨rfl, rfl⟩ := hlonger
    exact .inl ⟨rest', number_eq_ok.2 ⟨digits, hfront, hn⟩, rfl⟩

theorem dropTag_append_right (front more : Bytes) :
    dropTag (front ++ more) = dropTag front ++ more ∨ splitColon (dropTag front) = none := by
  by_cases hfront : tag.isPrefixOf front = true
  · left
    obtain ⟨rest, rfl⟩ := List.isPrefixOf_iff_prefix.1 hfront
    have hlonger : tag.isPrefixOf (tag ++ rest ++ more) = true := by
      rw [List.append_assoc]
      exact List.isPrefixOf_iff_prefix.2 (List.prefix_append tag (rest ++ more))
    rw [dropTag, dropTag, if_pos hfront, if_pos hlonger, List.append_assoc, List.drop_left,
      List.drop_left]
  · rw [dropTag, dropTag, if_neg hfront]
    by_cases hlonger : tag.isPrefixOf (front ++ more) = true
    · right
      have hpart : front <+: tag := by
        have htag := List.isPrefixOf_iff_prefix.1 hlonger
        rcases List.prefix_or_prefix_of_prefix (List.prefix_append front more) htag with h | h
        · exact h
        · exact absurd (List.isPrefixOf_iff_prefix.2 h) hfront
      have hne : front ≠ tag := fun e => hfront (by rw [e]; decide)
      have hshort : front.length ≤ 3 := by
        have hle := hpart.length_le
        have hlt : front.length ≠ tag.length := fun e => hne (hpart.eq_of_length e)
        have htag : tag.length = 4 := by decide
        omega
      have htake : front = tag.take front.length := List.prefix_iff_eq_take.1 hpart
      rw [htake]
      have hcases : front.length = 0 ∨ front.length = 1 ∨ front.length = 2 ∨ front.length = 3 := by
        omega
      rcases hcases with h | h | h | h <;> rw [h] <;> decide
    · left
      rw [if_neg hlonger]

/-- What holds of a reader that takes a given count of fields. -/
structure Takes (n : Nat) (reader : FieldReader α) : Prop where
  fields {data rest : Bytes} {a : α} (h : reader.run data = .ok (a, rest)) :
    ∃ found, (bytes.repeated n).run data = .ok (found, rest)
  cut {front more rest : Bytes} {a : α} (h : reader.run (front ++ more) = .ok (a, rest)) :
    (∃ rest', reader.run front = .ok (a, rest') ∧ rest = rest' ++ more) ∨
      ∃ e, reader.run front = .error e ∧ e.IsCut

theorem repeated_add {data mid rest : Bytes} {m n : Nat} {xs ys : List α}
    (hm : (reader.repeated m).run data = .ok (xs, mid))
    (hn : (reader.repeated n).run mid = .ok (ys, rest)) :
    (reader.repeated (m + n)).run data = .ok (xs ++ ys, rest) := by
  induction m generalizing data xs with
  | zero =>
    cases hm
    rw [Nat.zero_add]
    exact hn
  | succ m ih =>
    obtain ⟨x, after, xs', hx, hxs, rfl⟩ := repeated_succ_eq_ok.1 hm
    rw [Nat.add_right_comm]
    exact repeated_cons hx (ih hxs)

theorem takes_pure (a : α) : Takes 0 (pure a : FieldReader α) where
  fields h := by
    cases h
    exact ⟨[], rfl⟩
  cut h := by
    cases h
    exact .inl ⟨_, rfl, rfl⟩

/-- A reader that always fails stands for any count of fields. -/
theorem takes_of_error {n : Nat} {e : FieldError} (h : ∀ data, reader.run data = .error e) :
    Takes n reader where
  fields hrun := by
    rw [h] at hrun
    cases hrun
  cut hrun := by
    rw [h] at hrun
    cases hrun

theorem takes_throw {n : Nat} (e : FieldError) : Takes n (throw e : FieldReader α) :=
  takes_of_error fun _ => rfl

theorem takes_throw_bind {n : Nat} (e : FieldError) :
    Takes n ((throw e : FieldReader α) >>= next) :=
  takes_of_error fun _ => rfl

theorem takes_liftM (outcome : Except FieldError α) : Takes 0 (liftM outcome : FieldReader α) := by
  cases outcome with
  | ok a => exact takes_pure a
  | error e => exact takes_throw e

theorem takes_finish : Takes 0 finish where
  fields {data rest _} h := by
    cases data with
    | nil => cases h; exact ⟨[], rfl⟩
    | cons b r => cases h
  cut {front more rest _} h := by
    cases front with
    | nil =>
      cases more with
      | nil => cases h; exact .inl ⟨[], rfl, rfl⟩
      | cons b r => cases h
    | cons b r => cases h

theorem Takes.bind {m n : Nat} (hreader : Takes m reader) (hnext : ∀ a, Takes n (next a)) :
    Takes (m + n) (reader >>= next) where
  fields h := by
    obtain ⟨a, mid, ha, hb⟩ := run_bind_eq_ok.1 h
    obtain ⟨front, hfront⟩ := hreader.fields ha
    obtain ⟨back, hback⟩ := (hnext a).fields hb
    exact ⟨front ++ back, repeated_add hfront hback⟩
  cut h := by
    obtain ⟨a, mid, ha, hb⟩ := run_bind_eq_ok.1 h
    rcases hreader.cut ha with ⟨mid', ha', rfl⟩ | ⟨e, he, hcut⟩
    · rw [run_bind_of_ok ha']
      exact (hnext a).cut hb
    · exact .inr ⟨e, run_bind_of_error he, hcut⟩

theorem Takes.cons {n : Nat} (hreader : Takes 1 reader) (hnext : ∀ a, Takes n (next a)) :
    Takes (n + 1) (reader >>= next) :=
  Nat.add_comm 1 n ▸ hreader.bind hnext

theorem takes_bytes : Takes 1 bytes where
  fields {data rest field} h := ⟨[field], repeated_cons h rfl⟩
  cut {front more rest field} h := by
    have hnumber := bytes_eq_ok.1 h
    rcases dropTag_append_right front more with htag | hcolon
    · rw [htag] at hnumber
      rcases number_cut hnumber with ⟨rest', hfront, heq⟩ | herror
      · have hrun := bytes_of_number hfront
        rw [if_neg (by omega), Int.toNat_natCast] at hrun
        by_cases hlength : rest'.length < field.length
        · rw [if_pos hlength] at hrun
          exact .inr ⟨_, hrun, .inr ⟨_, _, rfl⟩⟩
        · left
          have hfield : field <+: rest' :=
            List.prefix_of_prefix_length_le ⟨rest, heq⟩ (List.prefix_append rest' more) (by omega)
          obtain ⟨left, rfl⟩ := hfield
          refine ⟨left, bytes_eq_ok.2 hfront, ?_⟩
          rw [List.append_assoc] at heq
          exact List.append_cancel_left heq
      · exact .inr ⟨_, bytes_of_number_error herror, .inl rfl⟩
    · have herror : number.run (dropTag front) = .error .unterminatedNumber := by
        simp only [number, StateT.run, hcolon]
      exact .inr ⟨_, bytes_of_number_error herror, .inl rfl⟩

theorem takes_text : Takes 1 text := takes_bytes.cons fun _ => takes_pure _

theorem takes_integer (field : String) : Takes 1 (integer field) := by
  refine takes_bytes.cons fun b => ?_
  cases numeral b with
  | ok n => exact takes_pure n
  | error shown => exact takes_throw _

theorem takes_integerOrEmpty (field : String) : Takes 1 (integerOrEmpty field) := by
  refine takes_bytes.cons fun b => ?_
  cases b with
  | nil => exact takes_pure 0
  | cons c r =>
    cases numeral (c :: r) with
    | ok n => exact takes_pure n
    | error shown => exact takes_throw _

theorem takes_repeated {k : Nat} (h : Takes k reader) (n : Nat) :
    Takes (n * k) (reader.repeated n) := by
  induction n with
  | zero =>
    rw [Nat.zero_mul]
    exact takes_pure []
  | succ n ih =>
    rw [Nat.add_one_mul, Nat.add_comm (n * k) k]
    exact h.bind fun x => ih.bind fun xs => takes_pure (x :: xs)

theorem takes_exactly {k : Nat} (h : Takes k reader) (n : Nat) :
    Takes (n * k) (reader.exactly n) := by
  induction n with
  | zero =>
    rw [Nat.zero_mul]
    exact takes_pure _
  | succ n ih =>
    rw [Nat.add_one_mul, Nat.add_comm (n * k) k]
    refine h.bind fun x => ih.bind (n := 0) fun xs => ?_
    exact takes_pure (⟨x :: xs.val, by rw [List.length_cons, xs.property]⟩ :
      { ys : List α // ys.length = n + 1 })

end FieldReader
end RemoteDev
