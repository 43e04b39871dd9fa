import Mathlib
import RemoteDev.Proofs.Field.Cut
import RemoteDev.Proofs.Wire.Reply
import RemoteDev.Record.Administration
import RemoteDev.Record.DataSource
import RemoteDev.Record.File

/-! A reply that is cut short is never taken for a complete one. Every record reader takes the
fields that its reply announces, and fails for want of bytes if it is given less. -/
namespace RemoteDev

open FieldReader

theorem takes_entry : Takes 5 Entry.reader := by
  refine takes_bytes.cons fun mark => ?_
  cases EntryKind.ofMark? mark with
  | none => exact takes_throw _
  | some kind =>
    refine takes_text.cons fun name => (takes_integer _).cons fun bits => ?_
    dsimp only
    split
    · exact takes_throw_bind _
    · refine (takes_integer _).cons fun size => ?_
      split
      · exact takes_throw_bind _
      · refine takes_text.cons fun shown => ?_
        cases Entry.time? shown with
        | none => exact takes_throw _
        | some modified => exact takes_pure _

theorem takes_ideInfo : Takes 5 IdeInfo.reader :=
  (takes_integer _).cons fun _ => takes_text.cons fun _ => takes_text.cons fun _ =>
    (takes_integer _).cons fun _ => (takes_integer _).cons fun _ =>
      takes_finish.bind fun _ => takes_pure _

theorem takes_primaryKey : Takes 5 PrimaryKey.reader :=
  takes_text.cons fun _ => takes_text.cons fun _ => takes_text.cons fun _ =>
    takes_text.cons fun _ => (takes_integerOrEmpty _).cons fun _ => takes_pure _

theorem takes_columnPath : Takes 4 ColumnPath.reader :=
  takes_text.cons fun _ => takes_text.cons fun _ => takes_text.cons fun _ =>
    takes_text.cons fun _ => takes_pure _

theorem takes_foreignKey : Takes 11 ForeignKey.reader :=
  takes_columnPath.bind (n := 7) fun _ => takes_columnPath.bind (n := 3) fun _ =>
    (takes_integerOrEmpty _).cons fun _ => (takes_integerOrEmpty _).cons fun _ =>
      (takes_integerOrEmpty _).cons fun _ => takes_pure _

theorem takes_tableInfo : Takes 4 TableInfo.reader :=
  takes_text.cons fun _ => takes_text.cons fun _ => takes_text.cons fun _ =>
    takes_text.cons fun _ => takes_pure _

theorem takes_columnInfo : Takes 11 ColumnInfo.reader :=
  takes_text.cons fun _ => takes_text.cons fun _ => takes_text.cons fun _ =>
    takes_text.cons fun _ => (takes_integerOrEmpty _).cons fun _ => takes_text.cons fun _ =>
      (takes_integerOrEmpty _).cons fun _ => (takes_integerOrEmpty _).cons fun _ =>
        (takes_integerOrEmpty _).cons fun _ => (takes_integerOrEmpty _).cons fun _ =>
          (takes_integerOrEmpty _).cons fun _ => takes_pure _

theorem takes_metadata : Takes 3 ColumnMetadata.reader :=
  takes_text.cons fun _ => takes_text.cons fun _ => takes_text.cons fun _ => takes_pure _

namespace Grid

/-- A row has one field for itself; what is in the field is read apart. -/
theorem takes_nestedRow (check : Nat → Except FieldError Unit) : Takes 1 (nestedRow check) :=
  takes_bytes.cons fun record => takes_liftM ((rowCells check).value record)

theorem takes_fittingRow (columns : Nat) : Takes 1 (fittingRow columns) := by
  refine (takes_nestedRow _).cons fun row => ?_
  dsimp only
  split
  · exact takes_pure _
  · exact takes_throw _

theorem takes_nestedReader (rows : Nat) : Takes (rows + 1) (nestedReader rows) := by
  refine (takes_nestedRow _).cons fun row => ?_
  have hrows := takes_repeated (takes_fittingRow row.1) rows
  rw [Nat.mul_one] at hrows
  exact hrows.bind fun data => takes_pure _

theorem takes_flatReader (columns rows : Nat) :
    Takes ((rows + 1) * columns) (flatReader columns rows) := by
  have hrow := takes_exactly takes_text columns
  rw [Nat.mul_one] at hrow
  rw [Nat.add_one_mul, Nat.add_comm]
  exact hrow.bind fun names => (takes_repeated hrow rows).bind fun data => takes_pure _

end Grid

/-- A decoder that reads the fields its reply announces: the count alone decides whether it
refuses the reply or which reader it uses. -/
def ReadsAnnounced {α : Type} (decode : Reply → Except FieldError α) : Prop :=
  ∀ count, (∃ e, ∀ body, decode ⟨count, body⟩ = .error e) ∨
    ∃ reader, Takes count reader ∧ ∀ body, decode ⟨count, body⟩ = reader.value body

theorem recordCount_cases (count size : Nat) :
    (∃ e, recordCount count size = .error e) ∨
      ∃ n, recordCount count size = .ok n ∧ count = n * size := by
  unfold recordCount
  split
  case isTrue => exact .inl ⟨_, rfl⟩
  case isFalse h =>
    rw [Int.toNat_natCast] at h ⊢
    have hmod : count % size = 0 := Decidable.not_not.1 fun hne => h (.inr hne)
    exact .inr ⟨_, rfl, (Nat.div_mul_cancel (Nat.dvd_of_mod_eq_zero hmod)).symm⟩

theorem expectCount_cases (count expected : Nat) :
    (∃ e, expectCount count expected = .error e) ∨
      expectCount count expected = .ok () ∧ count = expected := by
  unfold expectCount
  split
  case isTrue h => exact .inr ⟨rfl, Int.ofNat.inj h⟩
  case isFalse => exact .inl ⟨_, rfl⟩

section Counts

variable {α : Type} (count : Nat)

theorem expect_cases (expected : Nat) (reader : FieldReader α) :
    (∃ e, ∀ body, (do expectCount count expected; Reply.read ⟨count, body⟩ reader) = .error e) ∨
      count = expected ∧
        ∀ body, (do expectCount count expected; Reply.read ⟨count, body⟩ reader) =
          reader.value body := by
  rcases expectCount_cases count expected with ⟨e, he⟩ | ⟨hok, hcount⟩
  · exact .inl ⟨e, fun body => by rw [he]; rfl⟩
  · exact .inr ⟨hcount, fun body => by rw [hok]; rfl⟩

namespace Reply

theorem records_cases (size : Nat) (record : FieldReader α) :
    (∃ e, ∀ body, records ⟨count, body⟩ size record = .error e) ∨
      ∃ n, count = n * size ∧
        ∀ body, records ⟨count, body⟩ size record = (record.repeated n).value body := by
  rcases recordCount_cases count size with ⟨e, he⟩ | ⟨n, hok, hcount⟩
  · exact .inl ⟨e, fun body => by rw [records, he]; rfl⟩
  · exact .inr ⟨n, hcount, fun body => by rw [records, hok]; rfl⟩

theorem acknowledged_cases :
    (∃ e, ∀ body, acknowledged ⟨count, body⟩ = .error e) ∨
      ∀ body, acknowledged ⟨count, body⟩ =
        (do let _ ← bytes.repeated count; finish : FieldReader Unit).value body := by
  rcases recordCount_cases count 1 with ⟨e, he⟩ | ⟨n, hok, hcount⟩
  · exact .inl ⟨e, fun body => by rw [acknowledged, he]; rfl⟩
  · obtain rfl : count = n := hcount.trans (Nat.mul_one n)
    exact .inr fun body => by rw [acknowledged, hok]; rfl

theorem grid_cases :
    (∃ e, ∀ body, grid ⟨count, body⟩ = .error e) ∨
      ∃ rows, count = rows + 1 ∧
        ∀ body, grid ⟨count, body⟩ = (Grid.nestedReader rows).value body := by
  rcases recordCount_cases count 1 with ⟨e, he⟩ | ⟨n, hok, hcount⟩
  · exact .inl ⟨e, fun body => by rw [grid, he]; rfl⟩
  · cases n with
    | zero => exact .inl ⟨_, fun body => by rw [grid, hok]; rfl⟩
    | succ rows =>
      exact .inr ⟨rows, hcount.trans (Nat.mul_one _), fun body => by rw [grid, hok]; rfl⟩

theorem flatGrid_cases (columns : Nat) :
    (∃ e, ∀ body, flatGrid ⟨count, body⟩ columns = .error e) ∨
      ∃ rows, count = (rows + 1) * columns ∧
        ∀ body, flatGrid ⟨count, body⟩ columns = (Grid.flatReader columns rows).value body := by
  by_cases hcolumns : columns = 0
  · exact .inl ⟨_, fun body => by rw [flatGrid, if_pos hcolumns]; rfl⟩
  · rcases recordCount_cases count columns with ⟨e, he⟩ | ⟨n, hok, hcount⟩
    · exact .inl ⟨e, fun body => by rw [flatGrid, if_neg hcolumns, he]; rfl⟩
    · cases n with
      | zero => exact .inl ⟨_, fun body => by rw [flatGrid, if_neg hcolumns, hok]; rfl⟩
      | succ rows =>
        exact .inr ⟨rows, hcount, fun body => by rw [flatGrid, if_neg hcolumns, hok]; rfl⟩

end Reply

end Counts

theorem readsAnnounced_expect {α : Type} {expected : Nat} {reader : FieldReader α}
    (h : Takes expected reader) :
    ReadsAnnounced fun reply =>
      (do expectCount reply.count expected; reply.read reader) := by
  intro count
  rcases expect_cases count expected reader with hrefused | ⟨rfl, hread⟩
  · exact .inl hrefused
  · exact .inr ⟨reader, h, hread⟩

theorem readsAnnounced_records {α : Type} {size : Nat} {record : FieldReader α}
    (h : Takes size record) : ReadsAnnounced fun reply => reply.records size record := by
  intro count
  rcases Reply.records_cases count size record with hrefused | ⟨n, rfl, hread⟩
  · exact .inl hrefused
  · exact .inr ⟨_, takes_repeated h n, hread⟩

theorem readsAnnounced_acknowledged : ReadsAnnounced Reply.acknowledged := by
  intro count
  rcases Reply.acknowledged_cases count with hrefused | hread
  · exact .inl hrefused
  · have htakes := (takes_repeated takes_bytes count).bind fun _ => takes_finish
    rw [Nat.mul_one] at htakes
    exact .inr ⟨_, htakes, hread⟩

theorem readsAnnounced_grid : ReadsAnnounced Reply.grid := by
  intro count
  rcases Reply.grid_cases count with hrefused | ⟨rows, rfl, hread⟩
  · exact .inl hrefused
  · exact .inr ⟨_, Grid.takes_nestedReader rows, hread⟩

theorem readsAnnounced_flatGrid (columns : Nat) :
    ReadsAnnounced fun reply => reply.flatGrid columns := by
  intro count
  rcases Reply.flatGrid_cases count columns with hrefused | ⟨rows, rfl, hread⟩
  · exact .inl hrefused
  · exact .inr ⟨_, Grid.takes_flatReader columns rows, hread⟩

/-- The forms that a reply can have whose fields are all announced by its count. -/
inductive RecordForm where
  | texts
  | listing
  | fileContent
  | grid
  | flatGrid (columns : Nat)
  | primaryKeys
  | foreignKeys
  | tableInfo
  | columnInfo
  | metadata
  | ideInfo
  | acknowledgement
  | singleText

namespace RecordForm

def Content : RecordForm → Type
  | texts => List String
  | listing => List Entry
  | fileContent => FileContent
  | grid => Grid
  | flatGrid _ => Grid
  | primaryKeys => List PrimaryKey
  | foreignKeys => List ForeignKey
  | tableInfo => List TableInfo
  | columnInfo => List ColumnInfo
  | metadata => List ColumnMetadata
  | ideInfo => IdeInfo
  | acknowledgement => Unit
  | singleText => String

def decode : (form : RecordForm) → Reply → Except FieldError form.Content
  | texts => Reply.texts
  | listing => Reply.listing
  | fileContent => Reply.fileContent
  | grid => Reply.grid
  | flatGrid columns => fun reply => reply.flatGrid columns
  | primaryKeys => Reply.primaryKeys
  | foreignKeys => Reply.foreignKeys
  | tableInfo => Reply.tableInfo
  | columnInfo => Reply.columnInfo
  | metadata => Reply.metadata
  | ideInfo => Reply.ideInfo
  | acknowledgement => Reply.acknowledged
  | singleText => Reply.singleText

theorem readsAnnounced_decode (form : RecordForm) : ReadsAnnounced form.decode := by
  cases form with
  | texts => exact readsAnnounced_records takes_text
  | listing => exact readsAnnounced_records takes_entry
  | fileContent =>
    exact readsAnnounced_expect (takes_bytes.cons fun _ => takes_text.cons fun _ =>
      takes_text.cons fun _ => takes_pure _)
  | grid => exact readsAnnounced_grid
  | flatGrid columns => exact readsAnnounced_flatGrid columns
  | primaryKeys => exact readsAnnounced_records takes_primaryKey
  | foreignKeys => exact readsAnnounced_records takes_foreignKey
  | tableInfo => exact readsAnnounced_records takes_tableInfo
  | columnInfo => exact readsAnnounced_records takes_columnInfo
  | metadata => exact readsAnnounced_records takes_metadata
  | ideInfo => exact readsAnnounced_expect takes_ideInfo
  | acknowledgement => exact readsAnnounced_acknowledged
  | singleText =>
    exact readsAnnounced_expect (takes_text.cons fun _ => takes_finish.bind fun _ => takes_pure _)

end RecordForm

/-- The announced fields of a reply are all there if its content can be read, and what is read
of a shorter body lacks bytes. -/
theorem ReadsAnnounced.cut {α : Type} {decode : Reply → Except FieldError α}
    (hdecode : ReadsAnnounced decode) {reply : Reply} {content : α}
    (h : decode reply = .ok content) :
    ∃ fields rest, (bytes.repeated reply.count).run reply.body = .ok (fields, rest) ∧
      ∀ front more, reply.body = front ++ more → rest.length < more.length →
        ∃ e, decode ⟨reply.count, front⟩ = .error e ∧ e.IsCut := by
  rcases hdecode reply.count with ⟨e, he⟩ | ⟨reader, htakes, hreader⟩
  · rw [show reply = ⟨reply.count, reply.body⟩ from rfl, he] at h
    cases h
  · have hvalue : reader.value reply.body = .ok content := (hreader reply.body).symm.trans h
    obtain ⟨⟨a, rest⟩, hrun, rfl⟩ := map_eq_ok.1 hvalue
    obtain ⟨fields, hfields⟩ := htakes.fields hrun
    refine ⟨fields, rest, hfields, ?_⟩
    intro front more hbody hlength
    rw [hbody] at hrun
    rcases htakes.cut hrun with ⟨rest', -, heq⟩ | ⟨e, he, hcut⟩
    · rw [heq, List.length_append] at hlength
      omega
    · refine ⟨e, ?_, hcut⟩
      rw [hreader, value, he]
      rfl

/-- A message whose content can be read holds all announced fields. Cut anywhere before the end
of the last of them it is no reply, breaks off before the colon of the count, or its content
fails for want of bytes. -/
theorem cut_reply_fails (form : RecordForm) {raw : Bytes} {reply : Reply}
    {content : form.Content} (hparse : Reply.parse raw = .ok reply)
    (hdecode : form.decode reply = .ok content) :
    ∃ fields rest whole, (bytes.repeated reply.count).run reply.body = .ok (fields, rest) ∧
      raw = whole ++ rest ∧
      ∀ front, front <+: whole → front ≠ whole →
        Reply.parse front = .error .replyNotFound ∨
        Reply.parse front = .error (.field .unterminatedNumber) ∨
        ∃ shorter e, Reply.parse front = .ok shorter ∧ form.decode shorter = .error e ∧
          e.IsCut := by
  obtain ⟨fields, rest, hfields, hcut⟩ := form.readsAnnounced_decode.cut hdecode
  have hsuffix : rest <:+ raw :=
    (suffix_of_repeated_bytes hfields).trans (Reply.body_suffix_of_parse hparse)
  obtain ⟨whole, hwhole⟩ := hsuffix
  refine ⟨fields, rest, whole, hfields, hwhole.symm, ?_⟩
  rintro front ⟨lacking, rfl⟩ hne
  have hlacking : 0 < lacking.length := by
    rw [List.length_pos_iff]
    rintro rfl
    exact hne (List.append_nil front).symm
  have hraw : raw = front ++ (lacking ++ rest) := by rw [← hwhole, List.append_assoc]
  rw [hraw] at hparse
  rcases Reply.parse_cut hparse with ⟨body, hfront, hbody⟩ | hnone | hcolon
  · right; right
    obtain ⟨e, he, hshort⟩ := hcut body (lacking ++ rest) hbody (by rw [List.length_append]; omega)
    exact ⟨_, e, hfront, he, hshort⟩
  · exact .inl hnone
  · exact .inr (.inl hcolon)

/-- Two texts, the second with a tag and a colon in it, and a byte after the last field. -/
theorem cut_reply_fails_of_two_texts :
    Reply.parse (encodeText "HTTP/1.0 200 OK\r\n\r\n2:3:abcSTR:2:d:X") =
      .ok ⟨2, encodeText "3:abcSTR:2:d:X"⟩ ∧
    RecordForm.texts.decode ⟨2, encodeText "3:abcSTR:2:d:X"⟩ = .ok ["abc", "d:"] ∧
    ∃ fields rest whole,
      (bytes.repeated 2).run (encodeText "3:abcSTR:2:d:X") = .ok (fields, rest) ∧
      encodeText "HTTP/1.0 200 OK\r\n\r\n2:3:abcSTR:2:d:X" = whole ++ rest ∧
      ∀ front, front <+: whole → front ≠ whole →
        Reply.parse front = .error .replyNotFound ∨
        Reply.parse front = .error (.field .unterminatedNumber) ∨
        ∃ shorter e, Reply.parse front = .ok shorter ∧
          RecordForm.texts.decode shorter = .error e ∧ e.IsCut := by
  have hparse : Reply.parse (encodeText "HTTP/1.0 200 OK\r\n\r\n2:3:abcSTR:2:d:X") =
      .ok ⟨2, encodeText "3:abcSTR:2:d:X"⟩ := by cbv
  have hdecode : RecordForm.texts.decode ⟨2, encodeText "3:abcSTR:2:d:X"⟩ =
      .ok ["abc", "d:"] := by cbv
  have hcut := cut_reply_fails .texts hparse hdecode
  dsimp only at hcut
  exact ⟨hparse, hdecode, hcut⟩

end RemoteDev
