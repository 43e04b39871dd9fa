import RemoteDev.Proofs.Field.Plan
import RemoteDev.Proofs.Record.Truncation
import RemoteDev.Record.Debugger

/-! Decoders of replies as plans. What a decoder makes of a body is what comes of a plan, which the
announced count alone decides. Bytes behind what the plan takes are refused by some decoders, which
say how many there are; the others do not look at them. No decoder takes them for fields. -/
namespace RemoteDev

open FieldReader

def Entry.plan : PlanFor Entry.reader :=
  .bind .bytes fun mark => match EntryKind.ofMark? mark with
    | none => .fail _
    | some _ => .bind .text fun _ => .bind (.integer _) fun _ =>
      .ite (.failBind _) (.bind (.integer _) fun _ =>
        .ite (.failBind _) (.bind .text fun shown => match Entry.time? shown with
          | none => .fail _
          | some _ => .done _))

def PrimaryKey.plan : PlanFor PrimaryKey.reader :=
  .bind .text fun _ => .bind .text fun _ => .bind .text fun _ => .bind .text fun _ =>
    .bind (.integerOrEmpty _) fun _ => .done _

def ColumnPath.plan : PlanFor ColumnPath.reader :=
  .bind .text fun _ => .bind .text fun _ => .bind .text fun _ => .bind .text fun _ => .done _

def ForeignKey.plan : PlanFor ForeignKey.reader :=
  .bind ColumnPath.plan fun _ => .bind ColumnPath.plan fun _ =>
    .bind (.integerOrEmpty _) fun _ => .bind (.integerOrEmpty _) fun _ =>
      .bind (.integerOrEmpty _) fun _ => .done _

def TableInfo.plan : PlanFor TableInfo.reader :=
  .bind .text fun _ => .bind .text fun _ => .bind .text fun _ => .bind .text fun _ => .done _

def ColumnInfo.plan : PlanFor ColumnInfo.reader :=
  .bind .text fun _ => .bind .text fun _ => .bind .text fun _ => .bind .text fun _ =>
    .bind (.integerOrEmpty _) fun _ => .bind .text fun _ => .bind (.integerOrEmpty _) fun _ =>
      .bind (.integerOrEmpty _) fun _ => .bind (.integerOrEmpty _) fun _ =>
        .bind (.integerOrEmpty _) fun _ => .bind (.integerOrEmpty _) fun _ => .done _

def ColumnMetadata.plan : PlanFor ColumnMetadata.reader :=
  .bind .text fun _ => .bind .text fun _ => .bind .text fun _ => .done _

namespace Grid

variable (check : Nat → Except FieldError Unit)

theorem rowCells_eq_counted : rowCells check = counted fun count => do
    let width ← recordCount count 1
    check width
    let cells ← text.exactly width
    return ⟨width, cells⟩ := by
  simp only [rowCells, counted, whole, bind_assoc, pure_bind]

def cellsPlan (count : Int) : PlanFor (do
    let width ← recordCount count 1
    check width
    let cells ← text.exactly width
    return (⟨width, cells⟩ : (columns : Nat) × Row columns)) :=
  .bind (.ofExcept (recordCount count 1)) fun width => .bind (.ofExcept (check width)) fun _ =>
    .bind (PlanFor.text.exactly width) fun _ => .done _

def nestedPlan : PlanFor (nestedRow check) :=
  ⟨(PlanFor.record (cellsPlan check)).1, by
    rw [(PlanFor.record (cellsPlan check)).2, nestedRow, rowCells_eq_counted]⟩

def fittingPlan (columns : Nat) : PlanFor (fittingRow columns) :=
  .bind (nestedPlan _) fun _ => .dite (fun _ => .done _) fun _ => .fail _

def nestedReaderPlan (rows : Nat) : PlanFor (nestedReader rows) :=
  .bind (nestedPlan _) fun row => .bind ((fittingPlan row.1).repeated rows) fun _ => .done _

def flatReaderPlan (columns rows : Nat) : PlanFor (flatReader columns rows) :=
  .bind (PlanFor.text.exactly columns) fun _ =>
    .bind ((PlanFor.text.exactly columns).repeated rows) fun _ => .done _

end Grid

def IdeInfo.fields : FieldReader IdeInfo := do
  let first ← integer "num1"
  let serverVersion ← text
  let clientVersion ← text
  let second ← integer "num2"
  let third ← integer "num3"
  return { first, serverVersion, clientVersion, second, third }

theorem IdeInfo.reader_eq_whole : IdeInfo.reader = whole IdeInfo.fields := by
  simp only [IdeInfo.reader, IdeInfo.fields, whole, bind_assoc, pure_bind]

def IdeInfo.plan : PlanFor IdeInfo.fields :=
  .bind (.integer _) fun _ => .bind .text fun _ => .bind .text fun _ =>
    .bind (.integer _) fun _ => .bind (.integer _) fun _ => .done _

theorem FieldReader.value_bind_liftM {α β : Type} (reader : FieldReader α)
    (check : α → Except FieldError β) (data : Bytes) :
    (reader >>= fun a => liftM (check a) : FieldReader β).value data =
      reader.value data >>= check := by
  rw [value, value, StateT.run_bind]
  cases reader.run data with
  | error e => rfl
  | ok p =>
    show Except.map Prod.fst ((liftM (check p.1) : FieldReader β).run p.2) = check p.1
    cases check p.1 <;> rfl

/-- The plans of a decoder, one for each count. It runs them on the body of a reply, and refuses
what is left of it if it is closed. -/
structure DecoderPlan {α : Type} (closed : Bool) (decode : Reply → Except FieldError α) where
  plan : Nat → Plan α
  decode_eq : ∀ count body, decode ⟨count, body⟩ = (plan count).outcome closed body

namespace DecoderPlan

variable {α β : Type} {closed : Bool} {decode : Reply → Except FieldError α}

theorem outcome_of_planFor {reader : FieldReader α} (plan : PlanFor reader) (closed : Bool)
    (body : Bytes) :
    plan.1.outcome closed body = (if closed then whole reader else reader).value body := by
  rw [Plan.outcome, plan.2]

/-- A count is checked, and what comes of it decides which reader is used. -/
def checked (check : Nat → Except FieldError β) {reader : β → FieldReader α}
    (plans : ∀ b, PlanFor (reader b)) (closed : Bool) :
    DecoderPlan closed (fun reply => do
      let b ← check reply.count
      reply.read (if closed then whole (reader b) else reader b)) where
  plan count := match check count with
    | .error e => .fail e
    | .ok b => (plans b).1
  decode_eq count body := by
    dsimp only
    cases check count with
    | error e => exact (Plan.outcome_of_error rfl).symm
    | ok b => exact (outcome_of_planFor (plans b) closed body).symm

def congr {decode' : Reply → Except FieldError α} (plans : DecoderPlan closed decode)
    (h : ∀ reply, decode' reply = decode reply) : DecoderPlan closed decode' where
  plan := plans.plan
  decode_eq count body := (h _).trans (plans.decode_eq count body)

def expect (expected : Nat) {reader : FieldReader α} (plan : PlanFor reader) (closed : Bool) :
    DecoderPlan closed (fun reply => do
      expectCount reply.count expected
      reply.read (if closed then whole reader else reader)) :=
  checked (fun count => expectCount count expected) (fun _ => plan) closed

def records (size : Nat) {record : FieldReader α} (plan : PlanFor record) :
    DecoderPlan false fun reply => reply.records size record :=
  checked (fun count => recordCount count size) (fun n => plan.repeated n) false

def acknowledged : DecoderPlan true Reply.acknowledged :=
  (checked (fun count => recordCount count 1)
    (fun n => .bind (PlanFor.bytes.repeated n) fun _ => .done ()) true).congr fun reply => by
      simp only [Reply.acknowledged, if_true, whole, bind_assoc, pure_bind, bind_pure_unit]

def grid : DecoderPlan false Reply.grid where
  plan count := match recordCount count 1 with
    | .error e => .fail e
    | .ok 0 => .fail (.fieldCount (.atLeast 1) 0)
    | .ok (rows + 1) => (Grid.nestedReaderPlan rows).1
  decode_eq count body := by
    rw [Reply.grid]
    rcases recordCount count 1 with e | rows
    · exact (Plan.outcome_of_error rfl).symm
    · cases rows with
      | zero => exact (Plan.outcome_of_error rfl).symm
      | succ rows => exact (outcome_of_planFor (Grid.nestedReaderPlan rows) false body).symm

def flatGrid (columns : Nat) : DecoderPlan false fun reply => reply.flatGrid columns where
  plan count :=
    if columns = 0 then .fail (.invalidField "columns" .noColumns)
    else match recordCount count columns with
      | .error e => .fail e
      | .ok 0 => .fail (.fieldCount (.atLeast columns) 0)
      | .ok (rows + 1) => (Grid.flatReaderPlan columns rows).1
  decode_eq count body := by
    rw [Reply.flatGrid]
    split
    · exact (Plan.outcome_of_error rfl).symm
    · rcases recordCount count columns with e | rows
      · exact (Plan.outcome_of_error rfl).symm
      · cases rows with
        | zero => exact (Plan.outcome_of_error rfl).symm
        | succ rows =>
          exact (outcome_of_planFor (Grid.flatReaderPlan columns rows) false body).symm

def firstText : DecoderPlan false Reply.firstText where
  plan count := if count < 1 then .fail (.fieldCount (.atLeast 1) count) else PlanFor.text.1
  decode_eq count body := by
    rw [Reply.firstText]
    dsimp only
    split
    · exact (Plan.outcome_of_error rfl).symm
    · exact (outcome_of_planFor PlanFor.text false body).symm

def andThen (plans : DecoderPlan false decode) (check : α → Except FieldError β) :
    DecoderPlan false fun reply => decode reply >>= check where
  plan count := (plans.plan count).bind fun a => (PlanFor.ofExcept (check a)).1
  decode_eq count body := by
    rw [plans.decode_eq, Plan.outcome, Plan.outcome, if_neg (by decide), if_neg (by decide),
      Plan.reader_bind, ← value_bind_liftM]
    simp only [(PlanFor.ofExcept _).2]

def sessionId : DecoderPlan false Reply.sessionId :=
  firstText.andThen fun id =>
    if id.isEmpty then throw (FieldError.invalidField "session id" .empty) else return id

end DecoderPlan

/-- The forms that a reply can have: those whose fields are all announced, and those of which only
the first field counts. -/
inductive ReplyForm where
  | announced (form : RecordForm)
  | firstText
  | sessionId

namespace RecordForm

def isClosed : RecordForm → Bool
  | ideInfo | acknowledgement | singleText => true
  | _ => false

def planned : (form : RecordForm) → DecoderPlan form.isClosed form.decode
  | texts => .records 1 .text
  | listing => .records 5 Entry.plan
  | fileContent =>
    .expect 3 (.bind .bytes fun _ => .bind .text fun _ => .bind .text fun _ => .done _) false
  | grid => .grid
  | flatGrid columns => .flatGrid columns
  | primaryKeys => .records 5 PrimaryKey.plan
  | foreignKeys => .records 11 ForeignKey.plan
  | tableInfo => .records 4 TableInfo.plan
  | columnInfo => .records 11 ColumnInfo.plan
  | metadata => .records 3 ColumnMetadata.plan
  | ideInfo => (DecoderPlan.expect 5 IdeInfo.plan true).congr fun reply => by
    rw [decode, Reply.ideInfo, IdeInfo.reader_eq_whole, if_pos rfl]
  | acknowledgement => .acknowledged
  | singleText => .expect 1 .text true

def plan (form : RecordForm) (count : Nat) : Plan form.Content := form.planned.plan count

theorem decode_eq_outcome (form : RecordForm) (count : Nat) (body : Bytes) :
    form.decode ⟨count, body⟩ = (form.plan count).outcome form.isClosed body :=
  form.planned.decode_eq count body

end RecordForm

namespace ReplyForm

def Content : ReplyForm → Type
  | announced form => form.Content
  | firstText => String
  | sessionId => String

def decode : (form : ReplyForm) → Reply → Except FieldError form.Content
  | announced form => form.decode
  | firstText => Reply.firstText
  | sessionId => Reply.sessionId

def isClosed : ReplyForm → Bool
  | announced form => form.isClosed
  | _ => false

def planned : (form : ReplyForm) → DecoderPlan form.isClosed form.decode
  | announced form => form.planned
  | firstText => .firstText
  | sessionId => .sessionId

def plan (form : ReplyForm) (count : Nat) : Plan form.Content := form.planned.plan count

theorem decode_eq_outcome (form : ReplyForm) (count : Nat) (body : Bytes) :
    form.decode ⟨count, body⟩ = (form.plan count).outcome form.isClosed body :=
  form.planned.decode_eq count body

end ReplyForm

namespace Reply

def followedBy (reply : Reply) (more : Bytes) : Reply := ⟨reply.count, reply.body ++ more⟩

theorem bodyOf?_append_right {raw body : Bytes} (more : Bytes) (h : bodyOf? raw = some body) :
    bodyOf? (raw ++ more) = some (body ++ more) := by
  obtain ⟨⟨line, hline, hbegins⟩, head, hsplit⟩ := bodyOf?_eq_some_iff.1 h
  exact bodyOf?_eq_some_iff.2 ⟨⟨line, hline, hbegins.trans (List.prefix_append raw more)⟩, head,
    splitAtFirst_append_right (by decide) more hsplit⟩

theorem parse_append {raw : Bytes} {reply : Reply} (more : Bytes) (h : parse raw = .ok reply) :
    parse (raw ++ more) = .ok (reply.followedBy more) := by
  obtain ⟨body, hbody, hnumber⟩ := parse_eq_ok.1 h
  exact parse_eq_ok.2
    ⟨body ++ more, bodyOf?_append_right more hbody, number_append_right more hnumber⟩

end Reply

/-- If a reply is accepted and bytes are appended to it, then a form that is closed refuses them
with their number, unless there are none, and any other form gives the same content. Bytes behind a
message stand behind the fields of its reply. -/
theorem decode_followedBy (form : ReplyForm) {reply : Reply} {content : form.Content}
    (h : form.decode reply = .ok content) (more : Bytes) :
    form.decode (reply.followedBy more) =
        (if form.isClosed = true ∧ more ≠ [] then .error (.trailingBytes more.length)
          else .ok content) ∧
      ∀ raw, Reply.parse raw = .ok reply →
        Reply.parse (raw ++ more) = .ok (reply.followedBy more) := by
  have hplan := form.decode_eq_outcome reply.count
  have hcontent : (form.plan reply.count).outcome form.isClosed reply.body = .ok content :=
    (hplan reply.body).symm.trans h
  refine ⟨?_, fun raw => Reply.parse_append more⟩
  exact (hplan (reply.body ++ more)).trans (Plan.outcome_append hcontent more)

/-- One text, and behind it what looks like another. -/
theorem decode_followedBy_of_one_text :
    let form : ReplyForm := .announced .singleText
    form.decode ⟨1, encodeText "3:a:b"⟩ = .ok "a:b" ∧
      form.decode ⟨1, encodeText "3:a:b" ++ encodeText "STR:1:c"⟩ = .error (.trailingBytes 7) ∧
      ∀ raw, Reply.parse raw = .ok ⟨1, encodeText "3:a:b"⟩ →
        Reply.parse (raw ++ encodeText "STR:1:c") =
          .ok ⟨1, encodeText "3:a:b" ++ encodeText "STR:1:c"⟩ := by
  intro form
  have hdecode : form.decode ⟨1, encodeText "3:a:b"⟩ = .ok "a:b" := by cbv
  exact ⟨hdecode, decode_followedBy form hdecode (encodeText "STR:1:c")⟩

end RemoteDev
