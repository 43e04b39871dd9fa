import RemoteDev.Proofs.Field.Plan

/-! Fields of which some are sent with their tag and some without. A field is read the same either
way, so no plan can tell which of them have it. -/
namespace RemoteDev

open FieldReader

namespace FieldReader

open Text

def sentField (tagged : Bool) (field : Bytes) : Bytes :=
  if tagged then writtenField field else plainField field

/-- Fields of which those at some places have their tag. -/
def sentFields : (Nat → Bool) → List Bytes → Bytes
  | _, [] => []
  | tagged, field :: fields =>
    sentField (tagged 0) field ++ sentFields (fun place => tagged (place + 1)) fields

variable {tagged : Nat → Bool} {field rest : Bytes} {fields : List Bytes}

theorem dropTag_sentField (tagged : Bool) (field rest : Bytes) :
    dropTag (sentField tagged field ++ rest) =
      encodeText (decimalText field.length) ++ colon :: (field ++ rest) := by
  have hcount : writtenCount field.length ++ (field ++ rest) =
      encodeText (decimalText field.length) ++ colon :: (field ++ rest) := by
    rw [writtenCount, List.append_assoc, List.singleton_append]
  cases tagged with
  | false =>
    show dropTag (plainField field ++ rest) = _
    rw [plainField, List.append_assoc, dropTag_writtenCount, hcount]
  | true =>
    show dropTag (writtenField field ++ rest) = _
    rw [writtenField, List.append_assoc, List.append_assoc, dropTag_append, hcount]

theorem bytes_sentField (h : field.length < 2 ^ 63) (tagged : Bool) (rest : Bytes) :
    bytes.run (sentField tagged field ++ rest) = .ok (field, rest) := by
  rw [bytes_eq_ok, dropTag_sentField, number_eq_ok]
  exact ⟨_, splitColon_append (colon_notMem_decimal _) _, numeral_decimal h⟩

theorem numeral_signed_of_not_word {n : Int} (h : ¬ inWordRange n = true) :
    numeral (encodeText (signedText n)) = .error (signedText n) := by
  have hnone : word? (signedText n).toList = none := by
    rw [word?, integer?_signedText, Option.filter_some, if_neg h]
  rw [numeral, decodeLossy_encodeText, trim_signedText, hnone, String.ofList_toList]

/-- A field whose length no word holds is refused. -/
theorem bytes_sentField_of_le (h : 2 ^ 63 ≤ field.length) (tagged : Bool) (rest : Bytes) :
    ∃ e, bytes.run (sentField tagged field ++ rest) = .error e := by
  have hrange : ¬ inWordRange (field.length : Int) = true := by
    simp only [inWordRange, Bool.and_eq_true, decide_eq_true_eq]
    omega
  have hnumeral := numeral_signed_of_not_word hrange
  rw [signedText_natCast] at hnumeral
  have hnumber : number.run (dropTag (sentField tagged field ++ rest)) =
      .error (.invalidNumber (decimalText field.length)) := by
    rw [dropTag_sentField]
    exact (number_append (colon_notMem_decimal _) _).trans (by rw [hnumeral])
  exact ⟨_, bytes_of_number_error hnumber⟩

theorem bytes_nil : bytes.run [] = .error .unterminatedNumber := rfl

theorem length_lt_length_sentField (tagged : Bool) (field : Bytes) :
    field.length < (sentField tagged field).length := by
  cases tagged with
  | false =>
    show _ < (plainField field).length
    simp only [plainField, writtenCount, List.length_append, List.length_singleton]
    omega
  | true =>
    show _ < (writtenField field).length
    simp only [writtenField, writtenCount, List.length_append, List.length_singleton]
    omega

theorem sentFields_eq_nil_iff : sentFields tagged fields = [] ↔ fields = [] := by
  cases fields with
  | nil => exact ⟨fun _ => rfl, fun _ => rfl⟩
  | cons field fields =>
    refine ⟨fun h => ?_, nofun⟩
    have hlength := length_lt_length_sentField (tagged 0) field
    rw [(List.append_eq_nil_iff.1 h).1] at hlength
    exact absurd hlength (Nat.not_lt_zero _)

theorem length_le_of_mem_sentFields (h : field ∈ fields) (tagged : Nat → Bool) :
    field.length ≤ (sentFields tagged fields).length := by
  induction fields generalizing tagged with
  | nil => exact absurd h List.not_mem_nil
  | cons first fields ih =>
    rw [sentFields, List.length_append]
    rcases List.mem_cons.1 h with rfl | h
    · exact Nat.le_add_right_of_le (Nat.le_of_lt (length_lt_length_sentField _ _))
    · exact Nat.le_add_left_of_le (ih h _)

/-- A reader that takes the same value off some fields whichever have a tag, and leaves the same
fields, or that is refused whichever have one. -/
def IsTagBlind {α : Type} (reader : FieldReader α) (fields : List Bytes) : Prop :=
  (∃ a left, ∀ tagged, ∃ shifted,
    reader.run (sentFields tagged fields) = .ok (a, sentFields shifted left)) ∨
  ∀ tagged, ∃ e, reader.run (sentFields tagged fields) = .error e

section TagBlind

variable {α β : Type} {reader : FieldReader α} {next : α → FieldReader β}

theorem isTagBlind_bytes (fields : List Bytes) : IsTagBlind bytes fields := by
  cases fields with
  | nil => exact .inr fun _ => ⟨_, bytes_nil⟩
  | cons field fields =>
    rcases Nat.lt_or_ge field.length (2 ^ 63) with hlength | hlength
    · exact .inl ⟨field, fields, fun _ => ⟨_, bytes_sentField hlength _ _⟩⟩
    · exact .inr fun _ => bytes_sentField_of_le hlength _ _

theorem isTagBlind_liftM (outcome : Except FieldError α) (fields : List Bytes) :
    IsTagBlind (liftM outcome) fields := by
  cases outcome with
  | ok a => exact .inl ⟨a, fields, fun tagged => ⟨tagged, rfl⟩⟩
  | error e => exact .inr fun _ => ⟨e, rfl⟩

theorem IsTagBlind.bind (h : IsTagBlind reader fields)
    (hnext : ∀ a left, IsTagBlind (next a) left) : IsTagBlind (reader >>= next) fields := by
  rcases h with ⟨a, left, h⟩ | h
  · rcases hnext a left with ⟨b, last, hnext⟩ | hnext
    · refine .inl ⟨b, last, fun tagged => ?_⟩
      obtain ⟨shifted, hrun⟩ := h tagged
      rw [run_bind_of_ok hrun]
      exact hnext shifted
    · refine .inr fun tagged => ?_
      obtain ⟨shifted, hrun⟩ := h tagged
      rw [run_bind_of_ok hrun]
      exact hnext shifted
  · exact .inr fun tagged => (h tagged).imp fun _ => run_bind_of_error

theorem isTagBlind_finish (fields : List Bytes) : IsTagBlind finish fields := by
  cases hfields : fields with
  | nil => exact .inl ⟨(), [], fun tagged => ⟨tagged, rfl⟩⟩
  | cons field left =>
    refine .inr fun tagged => ?_
    cases hsent : sentFields tagged (field :: left) with
    | nil => cases sentFields_eq_nil_iff.1 hsent
    | cons b r => exact ⟨_, rfl⟩

theorem isTagBlind_whole (h : IsTagBlind reader fields) : IsTagBlind (whole reader) fields :=
  h.bind fun a left => (isTagBlind_finish left).bind fun _ last => isTagBlind_liftM (.ok a) last

theorem IsTagBlind.value (h : IsTagBlind reader fields) :
    (∃ a, ∀ tagged, reader.value (sentFields tagged fields) = .ok a) ∨
      ∀ tagged, ∃ e, reader.value (sentFields tagged fields) = .error e := by
  rcases h with ⟨a, left, h⟩ | h
  · refine .inl ⟨a, fun tagged => ?_⟩
    obtain ⟨shifted, hrun⟩ := h tagged
    rw [FieldReader.value, hrun]
    rfl
  · refine .inr fun tagged => ?_
    obtain ⟨e, he⟩ := h tagged
    refine ⟨e, ?_⟩
    rw [FieldReader.value, he]
    rfl

theorem IsTagBlind.run_to_end {a : α} (h : IsTagBlind reader fields)
    (hrun : reader.run (sentFields tagged fields) = .ok (a, [])) (tagged' : Nat → Bool) :
    reader.run (sentFields tagged' fields) = .ok (a, []) := by
  rcases h with ⟨a', left, h⟩ | h
  · obtain ⟨shifted, htaken⟩ := h tagged
    obtain ⟨shifted', htaken'⟩ := h tagged'
    rw [hrun, Except.ok.injEq, Prod.mk.injEq] at htaken
    obtain ⟨rfl, hleft⟩ := htaken
    rw [htaken', sentFields_eq_nil_iff.1 hleft.symm]
    rfl
  · obtain ⟨e, he⟩ := h tagged
    cases hrun.symm.trans he

end TagBlind

theorem repeated_bytes_of_sentFields {n : Nat} {found : List Bytes}
    (h : (bytes.repeated n).run (sentFields tagged fields) = .ok (found, rest)) :
    found <+: fields := by
  induction n generalizing tagged fields found with
  | zero =>
    cases h
    exact List.nil_prefix
  | succ n ih =>
    obtain ⟨first, mid, others, hfirst, hothers, rfl⟩ := repeated_succ_eq_ok.1 h
    cases fields with
    | nil => cases hfirst
    | cons field fields =>
      rw [sentFields] at hfirst
      rcases Nat.lt_or_ge field.length (2 ^ 63) with hlength | hlength
      · cases (bytes_sentField hlength _ _).symm.trans hfirst
        exact List.cons_prefix_cons.2 ⟨rfl, ih hothers⟩
      · obtain ⟨e, he⟩ := bytes_sentField_of_le hlength (tagged 0) _
        cases he.symm.trans hfirst

theorem repeated_bytes_sentFields {found : List Bytes} (hfound : found <+: fields)
    (h : ∀ field ∈ found, field.length < 2 ^ 63) (tagged : Nat → Bool) :
    ∃ rest, (bytes.repeated found.length).run (sentFields tagged fields) = .ok (found, rest) := by
  obtain ⟨others, rfl⟩ := hfound
  induction found generalizing tagged with
  | nil => exact ⟨_, rfl⟩
  | cons field found ih =>
    obtain ⟨hfield, hfound⟩ := List.forall_mem_cons.1 h
    obtain ⟨rest, hrest⟩ := ih hfound fun place => tagged (place + 1)
    exact ⟨rest, repeated_cons (bytes_sentField hfield _ _) hrest⟩

end FieldReader

namespace Plan

variable {α : Type}

theorem isTagBlind_reader (plan : Plan α) (fields : List Bytes) :
    IsTagBlind plan.reader fields := by
  induction plan generalizing fields with
  | done a => exact isTagBlind_liftM (.ok a) fields
  | fail e => exact isTagBlind_liftM (.error e) fields
  | field next ih => exact (isTagBlind_bytes fields).bind ih
  | record inner next _ ih =>
    exact (isTagBlind_bytes fields).bind fun content left =>
      (isTagBlind_liftM (inside inner content) left).bind ih

/-- What comes of a plan does not depend on which fields have a tag, unless it is refused. -/
theorem outcome_sentFields (plan : Plan α) (closed : Bool) (fields : List Bytes) :
    (∃ a, ∀ tagged, plan.outcome closed (sentFields tagged fields) = .ok a) ∨
      ∀ tagged, ∃ e, plan.outcome closed (sentFields tagged fields) = .error e := by
  have hreader := plan.isTagBlind_reader fields
  cases closed with
  | false => exact hreader.value
  | true => exact (isTagBlind_whole hreader).value

end Plan

theorem PlanFor.isTagBlind {α : Type} {reader : FieldReader α} (plan : PlanFor reader)
    (fields : List Bytes) : IsTagBlind reader fields := by
  have hplan := plan.1.isTagBlind_reader fields
  rwa [plan.2] at hplan

end RemoteDev
