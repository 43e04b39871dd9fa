import RemoteDev.Proofs.Field.Basic
import RemoteDev.Proofs.Text.Numeral
import RemoteDev.Proofs.Text.Utf8

/-! Field readers against written fields: a reader takes exactly the field that was written,
whatever it holds and whatever follows it. Readers made of such readers take what is written for
their parts. -/
namespace RemoteDev.FieldReader

open Text

def writtenCount (n : Nat) : Bytes := encodeText (decimalText n) ++ [colon]

def writtenField (field : Bytes) : Bytes := tag ++ (writtenCount field.length ++ field)

def plainField (field : Bytes) : Bytes := writtenCount field.length ++ field

/-- Fields with their count in front, as a reply and every row of a grid carry them. -/
def countedFields (fields : List Bytes) : Bytes :=
  writtenCount fields.length ++ fields.flatMap plainField

theorem colon_notMem_signed (n : Int) : colon ∉ encodeText (signedText n) := by
  intro hmem
  have hcolon : ':' ∈ (signedText n).toList := mem_of_mem_encodeText (c := ':') (by decide) hmem
  rcases mem_signedText hcolon with hsign | hdigit
  · exact absurd hsign (by decide)
  · exact absurd hdigit (by decide)

theorem numeral_signed {n : Int} (h : inWordRange n = true) :
    numeral (encodeText (signedText n)) = .ok n := by
  simp only [numeral, decodeLossy_encodeText, trim_signedText, word?_signedText h]

theorem colon_notMem_decimal (n : Nat) : colon ∉ encodeText (decimalText n) := by
  rw [← signedText_natCast]
  exact colon_notMem_signed n

theorem numeral_decimal {n : Nat} (h : n < 2 ^ 63) :
    numeral (encodeText (decimalText n)) = .ok (n : Int) := by
  have hrange : inWordRange (n : Int) = true := by
    simp only [inWordRange, Bool.and_eq_true, decide_eq_true_eq]
    omega
  rw [← signedText_natCast]
  exact numeral_signed hrange

theorem number_writtenCount {n : Nat} (h : n < 2 ^ 63) (rest : Bytes) :
    number.run (writtenCount n ++ rest) = .ok ((n : Int), rest) := by
  have hsplit := splitColon_append (colon_notMem_decimal n) rest
  rw [writtenCount, List.append_assoc, List.singleton_append]
  exact number_eq_ok.2 ⟨_, hsplit, numeral_decimal h⟩

theorem dropTag_append (data : Bytes) : dropTag (tag ++ data) = data := by
  have hbegins : tag.isPrefixOf (tag ++ data) = true :=
    List.isPrefixOf_iff_prefix.2 (List.prefix_append tag data)
  rw [dropTag, if_pos hbegins, List.drop_left]

theorem bytes_writtenField {field : Bytes} (h : field.length < 2 ^ 63) (rest : Bytes) :
    bytes.run (writtenField field ++ rest) = .ok (field, rest) := by
  rw [bytes_eq_ok, writtenField, List.append_assoc, List.append_assoc, dropTag_append]
  exact number_writtenCount h (field ++ rest)

theorem dropTag_writtenCount (n : Nat) (rest : Bytes) :
    dropTag (writtenCount n ++ rest) = writtenCount n ++ rest := by
  refine if_neg fun htag => ?_
  obtain ⟨after, hafter⟩ := List.isPrefixOf_iff_prefix.1 htag
  have hopened : tag ++ after = 83 :: (encodeText "TR:" ++ after) := rfl
  rw [writtenCount, List.append_assoc, List.singleton_append, hopened] at hafter
  cases hdigits : encodeText (decimalText n) with
  | nil =>
    rw [hdigits, List.nil_append, List.cons.injEq] at hafter
    exact absurd hafter.1 (by decide)
  | cons b r =>
    rw [hdigits, List.cons_append, List.cons.injEq] at hafter
    have hletter : 83 ∈ encodeText (decimalText n) := by
      rw [hdigits, ← hafter.1]
      exact List.mem_cons_self
    have hdigit : 'S' ∈ (decimalText n).toList :=
      mem_of_mem_encodeText (c := 'S') (by decide) hletter
    rw [decimalText, String.toList_ofList] at hdigit
    exact absurd (isDigit_of_mem_toDigits hdigit) (by decide)

theorem bytes_plainField {field : Bytes} (h : field.length < 2 ^ 63) (rest : Bytes) :
    bytes.run (plainField field ++ rest) = .ok (field, rest) := by
  rw [bytes_eq_ok, plainField, List.append_assoc, dropTag_writtenCount]
  exact number_writtenCount h (field ++ rest)

section Yields

variable {α β : Type} {reader : FieldReader α} {next : α → FieldReader β} {data more : Bytes}
  {a : α} {b : β}

/-- A reader that takes what is written off the front and yields a value, whatever follows. -/
def Yields (reader : FieldReader α) (data : Bytes) (a : α) : Prop :=
  ∀ rest, reader.run (data ++ rest) = .ok (a, rest)

theorem Yields.run (h : Yields reader data a) : reader.run data = .ok (a, []) := by
  have hrun := h []
  rwa [List.append_nil] at hrun

theorem Yields.value (h : Yields reader data a) : reader.value data = .ok a := by
  rw [FieldReader.value, h.run]
  rfl

theorem yields_pure (a : α) : Yields (pure a) [] a := fun _ => rfl

theorem Yields.bind (h : Yields reader data a) (hnext : Yields (next a) more b) :
    Yields (reader >>= next) (data ++ more) b := by
  intro rest
  rw [List.append_assoc, run_bind_of_ok (h (more ++ rest))]
  exact hnext rest

theorem Yields.map (h : Yields reader data a) (hnext : next a = pure b) :
    Yields (reader >>= next) data b := by
  have hwhole := h.bind (hnext ▸ yields_pure b)
  rwa [List.append_nil] at hwhole

theorem yields_number {n : Nat} (h : n < 2 ^ 63) : Yields number (writtenCount n) (n : Int) :=
  number_writtenCount h

theorem yields_bytes {field : Bytes} (h : field.length < 2 ^ 63) :
    Yields bytes (plainField field) field :=
  bytes_plainField h

theorem yields_text {shown : String} (h : (encodeText shown).length < 2 ^ 63) :
    Yields text (plainField (encodeText shown)) shown := by
  refine (yields_bytes h).map ?_
  rw [Text.lossy_encodeText]

theorem yields_repeated {written : α → Bytes} {as : List α}
    (h : ∀ a ∈ as, Yields reader (written a) a) :
    Yields (reader.repeated as.length) (as.flatMap written) as := by
  induction as with
  | nil => exact yields_pure []
  | cons a r ih =>
    have hothers := ih fun b hb => h b (List.mem_cons_of_mem a hb)
    rw [List.flatMap_cons, List.length_cons, repeated]
    exact (h a List.mem_cons_self).bind (hothers.map rfl)

end Yields

theorem repeated_bytes_writtenField {fields : List Bytes}
    (h : ∀ field ∈ fields, field.length < 2 ^ 63) (rest : Bytes) :
    (bytes.repeated fields.length).run (fields.flatMap writtenField ++ rest) =
      .ok (fields, rest) :=
  yields_repeated (fun field hfield => bytes_writtenField (h field hfield)) rest

theorem length_le_of_mem_flatMap {α : Type} (written : α → Bytes) {as : List α} {a : α}
    (h : a ∈ as) : (written a).length ≤ (as.flatMap written).length := by
  rw [List.length_flatMap]
  exact List.le_sum_of_mem (List.mem_map_of_mem h)

/-- A run of written values that are not empty has no more values than bytes. -/
theorem length_le_length_flatMap_of_pos {α : Type} {written : α → Bytes}
    (h : ∀ a, 0 < (written a).length) (as : List α) :
    as.length ≤ (as.flatMap written).length := by
  have hsum := List.length_le_sum_of_one_le (as.map fun a => (written a).length)
    (List.forall_mem_map.2 fun a _ => h a)
  rwa [List.length_map, ← List.length_flatMap] at hsum

theorem length_plainField_pos (field : Bytes) : 0 < (plainField field).length := by
  rw [plainField, writtenCount, List.length_append, List.length_append, List.length_singleton]
  omega

theorem length_le_length_plainField (field : Bytes) :
    field.length ≤ (plainField field).length := by
  rw [plainField, List.length_append]
  omega

theorem length_lt_of_mem_plainFields {fields : List Bytes} {bound : Nat}
    (h : (fields.flatMap plainField).length < bound) {field : Bytes} (hfield : field ∈ fields) :
    field.length < bound :=
  have hplain := length_le_of_mem_flatMap plainField hfield
  Nat.lt_of_le_of_lt (Nat.le_trans (length_le_length_plainField field) hplain) h

end RemoteDev.FieldReader
