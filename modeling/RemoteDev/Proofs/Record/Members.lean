import RemoteDev.Proofs.Record.Written
import RemoteDev.Record.Administration
import RemoteDev.Record.DataSource

/-! Records as lists of members. What a data source says of its tables, columns and keys is sent
member by member, and a decoder gives back the records; an integer whose field is left empty is
zero, and the members behind it stay where they are. -/
namespace RemoteDev

open FieldReader

inductive Member where
  | text (shown : String)
  | integer (n : Int)

namespace Member

/-- The field of a member. Where the field is left empty, so is that of an integer. -/
def field (blank : Bool) : Member → Bytes
  | text shown => encodeText shown
  | integer n => integerField blank n

def zeroed (blank : Bool) : Member → Member
  | text shown => text shown
  | integer n => integer (integerOrZero blank n)

def InRange : Member → Prop
  | text _ => True
  | integer n => Text.inWordRange n = true

end Member

/-- How records are sent: their members in order, and what is left of a record if the fields at
some places are empty. -/
structure MemberForm (α : Type) where
  members : α → List Member
  zeroed : (Nat → Bool) → α → α
  members_zeroed : ∀ blank a, members (zeroed blank a) =
    (members a).zipIdx.map fun m => m.1.zeroed (blank m.2)
  zeroed_nowhere : ∀ a, zeroed (fun _ => false) a = a

namespace MemberForm

variable {α : Type}

def fields (form : MemberForm α) (blank : Nat → Bool) (a : α) : List Bytes :=
  (form.members a).zipIdx.map fun m => m.1.field (blank m.2)

def InRange (form : MemberForm α) (a : α) : Prop := ∀ m ∈ form.members a, m.InRange

/-- A decoder gives back the records that are sent, with zero for every integer whose field is
empty. -/
structure Restores (form : MemberForm α) (decode : Reply → Except FieldError (List α)) : Prop where
  whole : ∀ records, (∀ a ∈ records, form.InRange a) →
    Reply.ReadsFrom decode (records.flatMap (form.fields fun _ => false)) records
  zeroed : ∀ sent : List (α × (Nat → Bool)), (∀ s ∈ sent, form.InRange s.1) →
    Reply.ReadsFrom decode (sent.flatMap fun s => form.fields s.2 s.1)
      (sent.map fun s => form.zeroed s.2 s.1)

theorem restores_of_decodes {form : MemberForm α} {size : Nat} {reader : FieldReader α}
    (hsize : 0 < size) (hmembers : ∀ a, (form.members a).length = size)
    (h : ∀ blank a, form.InRange a → Decodes reader (form.fields blank a) (form.zeroed blank a)) :
    form.Restores (Reply.records · size reader) := by
  have hwritten (blank : Nat → Bool) (a : α) : (form.fields blank a).length = size := by
    rw [fields, List.length_map, List.length_zipIdx, hmembers]
  refine ⟨fun records hrange => ?_, fun sent hrange => ?_⟩
  · have hread := Reply.readsFrom_records hsize (hwritten fun _ => false) fun a ha =>
      h (fun _ => false) a (hrange a ha)
    rwa [funext form.zeroed_nowhere, List.map_id'] at hread
  · exact Reply.readsFrom_records hsize (fun s => hwritten s.2 s.1) fun s hs =>
      h s.2 s.1 (hrange s hs)

end MemberForm

def PrimaryKey.form : MemberForm PrimaryKey where
  members k := [.text k.catalog, .text k.owner, .text k.table, .text k.column, .integer k.sequence]
  zeroed blank k := { k with sequence := integerOrZero (blank 4) k.sequence }
  members_zeroed _ _ := rfl
  zeroed_nowhere _ := rfl

def ColumnPath.members (p : ColumnPath) : List Member :=
  [.text p.catalog, .text p.owner, .text p.table, .text p.column]

def ForeignKey.form : MemberForm ForeignKey where
  members k := k.primary.members ++ k.foreign.members ++
    [.integer k.sequence, .integer k.updateRule, .integer k.deleteRule]
  zeroed blank k := { k with
    sequence := integerOrZero (blank 8) k.sequence
    updateRule := integerOrZero (blank 9) k.updateRule
    deleteRule := integerOrZero (blank 10) k.deleteRule }
  members_zeroed _ _ := rfl
  zeroed_nowhere _ := rfl

def TableInfo.form : MemberForm TableInfo where
  members t := [.text t.catalog, .text t.schema, .text t.name, .text t.kind]
  zeroed _ t := t
  members_zeroed _ _ := rfl
  zeroed_nowhere _ := rfl

def ColumnInfo.form : MemberForm ColumnInfo where
  members c := [.text c.schema, .text c.owner, .text c.table, .text c.name, .integer c.typeCode,
    .text c.typeName, .integer c.precision, .integer c.length, .integer c.scale, .integer c.radix,
    .integer c.nullable]
  zeroed blank c := { c with
    typeCode := integerOrZero (blank 4) c.typeCode
    precision := integerOrZero (blank 6) c.precision
    length := integerOrZero (blank 7) c.length
    scale := integerOrZero (blank 8) c.scale
    radix := integerOrZero (blank 9) c.radix
    nullable := integerOrZero (blank 10) c.nullable }
  members_zeroed _ _ := rfl
  zeroed_nowhere _ := rfl

def ColumnMetadata.form : MemberForm ColumnMetadata where
  members c := [.text c.name, .text c.typeName, .text c.javaType]
  zeroed _ c := c
  members_zeroed _ _ := rfl
  zeroed_nowhere _ := rfl

theorem restores_primaryKeys : PrimaryKey.form.Restores Reply.primaryKeys := by
  refine MemberForm.restores_of_decodes (by decide) (fun _ => rfl) fun blank k h => ?_
  have hsequence : Text.inWordRange k.sequence = true := h (.integer _) (by simp [PrimaryKey.form])
  exact (decodes_text _).cons <| (decodes_text _).cons <| (decodes_text _).cons <|
    (decodes_text _).cons <| (decodes_integerOrEmpty _ _ hsequence).map rfl

theorem decodes_columnPath (p : ColumnPath) :
    Decodes ColumnPath.reader [encodeText p.catalog, encodeText p.owner, encodeText p.table,
      encodeText p.column] p :=
  (decodes_text _).cons <| (decodes_text _).cons <| (decodes_text _).cons <|
    (decodes_text _).map rfl

theorem restores_foreignKeys : ForeignKey.form.Restores Reply.foreignKeys := by
  refine MemberForm.restores_of_decodes (by decide) (fun _ => rfl) fun blank k h => ?_
  simp only [MemberForm.InRange, ForeignKey.form, ColumnPath.members, List.forall_mem_append,
    List.forall_mem_cons, Member.InRange] at h
  obtain ⟨-, hsequence, hupdate, hdelete, -⟩ := h
  exact (decodes_columnPath _).bind <| (decodes_columnPath _).bind <|
    (decodes_integerOrEmpty _ _ hsequence).cons <| (decodes_integerOrEmpty _ _ hupdate).cons <|
      (decodes_integerOrEmpty _ _ hdelete).map rfl

theorem restores_tableInfo : TableInfo.form.Restores Reply.tableInfo := by
  refine MemberForm.restores_of_decodes (by decide) (fun _ => rfl) fun _ t _ => ?_
  exact (decodes_text _).cons <| (decodes_text _).cons <| (decodes_text _).cons <|
    (decodes_text _).map rfl

theorem restores_columnInfo : ColumnInfo.form.Restores Reply.columnInfo := by
  refine MemberForm.restores_of_decodes (by decide) (fun _ => rfl) fun blank c h => ?_
  simp only [MemberForm.InRange, ColumnInfo.form, List.forall_mem_cons, Member.InRange] at h
  obtain ⟨-, -, -, -, htype, -, hprecision, hlength, hscale, hradix, hnullable, -⟩ := h
  exact (decodes_text _).cons <| (decodes_text _).cons <| (decodes_text _).cons <|
    (decodes_text _).cons <| (decodes_integerOrEmpty _ _ htype).cons <| (decodes_text _).cons <|
      (decodes_integerOrEmpty _ _ hprecision).cons <| (decodes_integerOrEmpty _ _ hlength).cons <|
        (decodes_integerOrEmpty _ _ hscale).cons <| (decodes_integerOrEmpty _ _ hradix).cons <|
          (decodes_integerOrEmpty _ _ hnullable).map rfl

theorem restores_metadata : ColumnMetadata.form.Restores Reply.metadata := by
  refine MemberForm.restores_of_decodes (by decide) (fun _ => rfl) fun _ c _ => ?_
  exact (decodes_text _).cons <| (decodes_text _).cons <| (decodes_text _).map rfl

namespace Reply

theorem texts_readsFrom (shown : List String) : ReadsFrom texts (shown.map encodeText) shown := by
  rw [List.map_eq_flatMap]
  have hread := readsFrom_records Nat.one_pos (fun _ => rfl) fun t (_ : t ∈ shown) => decodes_text t
  rwa [List.map_id'] at hread

theorem readsFrom_expect {α : Type} {expected : Nat} {reader : FieldReader α}
    {fields : List Bytes} {a : α} (hexpected : fields.length = expected)
    (h : DecodesWhole reader fields a) :
    ReadsFrom (fun reply => do expectCount reply.count expected; reply.read reader) fields a := by
  refine readsFrom_of_body fun body hfields => ?_
  have hcount : expectCount (fields.length : Int) expected = .ok () := by
    rw [hexpected]
    exact if_pos rfl
  simp only [hcount, ok_bind]
  exact h body hfields

theorem fileContent_readsFrom (content : FileContent) :
    ReadsFrom fileContent
      [content.data, encodeText content.modified, encodeText content.permission] content := by
  refine readsFrom_expect rfl (Decodes.whole ?_)
  exact (decodes_bytes _).cons <| (decodes_text _).cons <| (decodes_text _).map rfl

end Reply

def IdeInfo.members (info : IdeInfo) : List Member :=
  [.integer info.first, .text info.serverVersion, .text info.clientVersion, .integer info.second,
    .integer info.third]

theorem ideInfo_readsFrom {info : IdeInfo} (h : ∀ m ∈ info.members, m.InRange) :
    Reply.ReadsFrom Reply.ideInfo (info.members.map (Member.field false)) info := by
  simp only [IdeInfo.members, List.forall_mem_cons, Member.InRange] at h
  obtain ⟨hfirst, -, -, hsecond, hthird, -⟩ := h
  refine Reply.readsFrom_expect rfl ?_
  exact (decodes_integer _ hfirst).consWhole <| (decodes_text _).consWhole <|
    (decodes_text _).consWhole <| (decodes_integer _ hsecond).consWhole <|
      (decodes_integer _ hthird).consWhole <| decodesWhole_finish _

namespace Reply

/-- Every decoder of records gives back the records that are sent, in their order, and those with
empty fields with zero for the integers that were in them. So do the decoders of texts, of the
answer to an editor and of the content of a file. -/
theorem restores_sent :
    PrimaryKey.form.Restores primaryKeys ∧ ForeignKey.form.Restores foreignKeys ∧
      TableInfo.form.Restores tableInfo ∧ ColumnInfo.form.Restores columnInfo ∧
      ColumnMetadata.form.Restores metadata ∧
      (∀ shown : List String, ReadsFrom texts (shown.map encodeText) shown) ∧
      (∀ info : IdeInfo, (∀ m ∈ info.members, m.InRange) →
        ReadsFrom ideInfo (info.members.map (Member.field false)) info) ∧
      ∀ content : FileContent, ReadsFrom fileContent
        [content.data, encodeText content.modified, encodeText content.permission] content :=
  ⟨restores_primaryKeys, restores_foreignKeys, restores_tableInfo, restores_columnInfo,
    restores_metadata, texts_readsFrom, fun _ => ideInfo_readsFrom, fileContent_readsFrom⟩

/-- Two columns, of which the first has three empty integers and the second a text that imitates a
field. -/
theorem restores_sent_of_empty_integers :
    let head := encodeText "HTTP/1.1 200 OK"
    let empty : Nat → Bool := fun place => place = 6 || place = 8 || place = 9
    let first : ColumnInfo := ⟨"s", "", "PEOPLE", "ID", -5, "bigint", 19, 8, 3, 10, 1⟩
    let second : ColumnInfo :=
      ⟨"s", "", "PEOPLE", "0:STR:1:", 2 ^ 63 - 1, "", -2 ^ 63, 0, 0, 0, 0⟩
    let sent : List (ColumnInfo × (Nat → Bool)) := [(first, empty), (second, fun _ => false)]
    let fields := sent.flatMap fun s => ColumnInfo.form.fields s.2 s.1
    (∀ s ∈ sent, ColumnInfo.form.InRange s.1) ∧ (written head fields).length < 2 ^ 63 ∧
      ∃ reply, parse (written head fields) = .ok reply ∧ reply.columnInfo = .ok
        [⟨"s", "", "PEOPLE", "ID", -5, "bigint", 0, 8, 0, 0, 1⟩, second] := by
  intro head empty first second sent fields
  have hrange : ∀ s ∈ sent, ColumnInfo.form.InRange s.1 := by
    simp [sent, first, second, MemberForm.InRange, ColumnInfo.form, Member.InRange,
      Text.inWordRange]
  have hlength : (written head fields).length < 2 ^ 63 := by decide +kernel
  exact ⟨hrange, hlength,
    (restores_sent.2.2.2.1.zeroed sent hrange).message head (by decide) (by decide) hlength⟩

end Reply
end RemoteDev
