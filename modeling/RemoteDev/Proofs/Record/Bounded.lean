import RemoteDev.Proofs.Field.Log
import RemoteDev.Proofs.Record.CellRun
import RemoteDev.Proofs.Record.Members
import RemoteDev.Proofs.Record.Planned

/-! What a reply can make a decoder do. Whatever counts are announced, a decoder takes no more
fields than half as many as the body has bytes, and what it gives back has no more members. -/
namespace RemoteDev

open FieldReader

namespace FieldReader

/-- Fields that have been taken, with two bytes for each, are no longer than what was passed. -/
theorem length_of_repeated_bytes {n : Nat} {data rest : Bytes} {fields : List Bytes}
    (h : (bytes.repeated n).run data = .ok (fields, rest)) :
    (fields.map fun field => field.length + 2).sum + rest.length ≤ data.length := by
  induction n generalizing data fields with
  | zero =>
    cases h
    exact Nat.le_of_eq (Nat.zero_add _)
  | succ n ih =>
    obtain ⟨field, mid, others, hfield, hothers, rfl⟩ := repeated_succ_eq_ok.1 h
    have hfirst := length_of_bytes hfield
    have hbehind := ih hothers
    rw [List.map_cons, List.sum_cons]
    omega

theorem two_mul_le_of_repeated_bytes {n : Nat} {data rest : Bytes} {fields : List Bytes}
    (h : (bytes.repeated n).run data = .ok (fields, rest)) : 2 * n ≤ data.length := by
  have hlength := length_of_repeated_bytes h
  rw [List.sum_map_add, List.map_const', List.sum_replicate, length_of_repeated h,
    smul_eq_mul] at hlength
  omega

end FieldReader

def Entry.members (entry : Entry) : List Member :=
  [.text entry.name, .integer entry.permissions.bits.toNat, .integer entry.size,
    .integer entry.modified]

namespace RecordForm

def members : (form : RecordForm) → form.Content → List Member
  | texts => List.flatMap fun shown => [.text shown]
  | listing => List.flatMap Entry.members
  | fileContent => fun content => [.text content.modified, .text content.permission]
  | grid => fun g => g.cells.map Member.text
  | flatGrid _ => fun g => g.cells.map Member.text
  | primaryKeys => List.flatMap PrimaryKey.form.members
  | foreignKeys => List.flatMap ForeignKey.form.members
  | tableInfo => List.flatMap TableInfo.form.members
  | columnInfo => List.flatMap ColumnInfo.form.members
  | metadata => List.flatMap ColumnMetadata.form.members
  | ideInfo => IdeInfo.members
  | acknowledgement => fun _ => []
  | singleText => fun shown => [.text shown]

end RecordForm

section Members

variable {α : Type} {reply : Reply}

theorem length_members_of_records {size : Nat} {reader : FieldReader α} {members : α → List Member}
    (hmembers : ∀ a, (members a).length ≤ size) {as : List α}
    (h : reply.records size reader = .ok as) : (as.flatMap members).length ≤ reply.count := by
  rcases Reply.records_cases reply.count size reader with ⟨e, he⟩ | ⟨n, hcount, hread⟩
  · cases (he reply.body).symm.trans h
  · obtain ⟨rest, hrun⟩ := value_eq_ok.1 ((hread reply.body).symm.trans h)
    rw [hcount, ← length_of_repeated hrun, List.length_flatMap]
    refine Nat.le_trans (List.sum_le_card_nsmul _ size ?_) (by simp)
    exact List.forall_mem_map.2 fun a _ => hmembers a

theorem count_of_expect {expected : Nat} {reader : FieldReader α} {a : α}
    (h : (do expectCount reply.count expected; reply.read reader) = .ok a) :
    reply.count = expected := by
  rcases expect_cases reply.count expected reader with ⟨e, he⟩ | ⟨hcount, -⟩
  · cases (he reply.body).symm.trans h
  · exact hcount

theorem length_cells_of_flatGrid {columns : Nat} {g : Grid} (h : reply.flatGrid columns = .ok g) :
    g.cells.length = reply.count := by
  rcases Reply.flatGrid_cases reply.count columns with ⟨e, he⟩ | ⟨rows, hcount, hread⟩
  · cases (he reply.body).symm.trans h
  · -- as one run the cells are read by as many text reads
    have hvalue := congrArg (Except.map Grid.run) ((hread reply.body).symm.trans h)
    rw [← value_map, Grid.map_run_flatReader, value_map] at hvalue
    obtain ⟨cells, hcells, hrun⟩ := map_eq_ok.1 hvalue
    obtain ⟨rest, htaken⟩ := value_eq_ok.1 hcells
    have hlength : cells.length = g.cells.length := congrArg (fun run => run.cells.length) hrun
    rw [hcount, ← length_of_repeated htaken, hlength]

/-- The cells of a row have two bytes each in its record, and so has their count. -/
theorem Grid.IsRow.length_le {record : Bytes} {cells : List String} (h : Grid.IsRow record cells) :
    2 * cells.length + 2 ≤ record.length := by
  obtain ⟨rest, hcount, hcells⟩ := h
  have hnumber := length_of_number hcount
  obtain ⟨found, hfound⟩ := (takes_repeated takes_text cells.length).fields hcells
  have htaken := two_mul_le_of_repeated_bytes hfound
  omega

theorem length_flatten_le_of_isRow {records : List Bytes} {rows : List (List String)}
    (h : List.Forall₂ Grid.IsRow records rows) :
    2 * rows.flatten.length ≤ (records.map fun record => record.length + 2).sum := by
  induction h with
  | nil => exact Nat.zero_le _
  | cons hrow _ ih =>
    have hfirst := hrow.length_le
    rw [List.flatten_cons, List.length_append, List.map_cons, List.sum_cons]
    omega

theorem length_cells_of_grid {g : Grid} (h : reply.grid = .ok g) :
    2 * g.cells.length ≤ reply.body.length := by
  obtain ⟨columns, names, below, ⟨-, records, rest, hrecords, hrows⟩, rfl⟩ :=
    Reply.grid_eq_ok_iff.1 h
  have hlength := length_of_repeated_bytes hrecords
  have hcells := length_flatten_le_of_isRow hrows
  rw [Grid.cells_ofRows, List.flatMap_def]
  omega

end Members

namespace RecordForm

variable {form : RecordForm} {reply : Reply} {content : form.Content}

theorem two_mul_count_le (h : form.decode reply = .ok content) :
    2 * reply.count ≤ reply.body.length := by
  obtain ⟨fields, rest, hfields, -⟩ := form.readsAnnounced_decode.cut h
  exact two_mul_le_of_repeated_bytes hfields

theorem two_mul_length_members_le (h : form.decode reply = .ok content) :
    2 * (form.members content).length ≤ reply.body.length := by
  have hcount := two_mul_count_le h
  have hannounced (hmembers : (form.members content).length ≤ reply.count) :
      2 * (form.members content).length ≤ reply.body.length := by omega
  cases form with
  | grid =>
    rw [members, List.length_map]
    exact length_cells_of_grid h
  | flatGrid columns =>
    refine hannounced (Nat.le_of_eq ?_)
    rw [members, List.length_map]
    exact length_cells_of_flatGrid h
  | texts => exact hannounced (length_members_of_records (fun _ => Nat.le_refl 1) h)
  | listing => exact hannounced (length_members_of_records (fun _ => Nat.le_succ 4) h)
  | primaryKeys => exact hannounced (length_members_of_records (fun _ => Nat.le_refl 5) h)
  | foreignKeys => exact hannounced (length_members_of_records (fun _ => Nat.le_refl 11) h)
  | tableInfo => exact hannounced (length_members_of_records (fun _ => Nat.le_refl 4) h)
  | columnInfo => exact hannounced (length_members_of_records (fun _ => Nat.le_refl 11) h)
  | metadata => exact hannounced (length_members_of_records (fun _ => Nat.le_refl 3) h)
  | fileContent =>
    refine hannounced ?_
    rw [count_of_expect h]
    exact Nat.le_succ 2
  | ideInfo =>
    refine hannounced ?_
    rw [count_of_expect h]
    exact Nat.le_refl 5
  | acknowledgement => exact Nat.zero_le _
  | singleText =>
    refine hannounced ?_
    rw [count_of_expect h]
    exact Nat.le_refl 1

end RecordForm

def RecordForm.log (form : RecordForm) (reply : Reply) : Plan.Log :=
  (form.plan reply.count).log reply.body

/-- Whatever counts a reply announces, a form reads it by its plan, and by that or any other plan
that does the same no more fields are taken than half as many as the body has bytes, those in
records counted as well; the first that is refused is the last to be asked for. A count of more
fields than that is refused, and the content has no more texts and integers. -/
theorem reading_is_bounded (form : RecordForm) (reply : Reply) :
    (∀ body, form.decode ⟨reply.count, body⟩ =
      (form.plan reply.count).outcome form.isClosed body) ∧
    Plan.EndsAtRefusal (form.log reply) (form.decode reply) ∧
    (form.log reply).taken ≤ reply.body.length / 2 ∧
    (∀ plan : Plan form.Content,
      (∀ body, form.decode ⟨reply.count, body⟩ = plan.outcome form.isClosed body) →
        Plan.EndsAtRefusal (plan.log reply.body) (form.decode reply) ∧
        (plan.log reply.body).taken ≤ reply.body.length / 2) ∧
    (reply.body.length < 2 * reply.count → ∃ e, form.decode reply = .error e) ∧
    ∀ content, form.decode reply = .ok content →
      (form.members content).length ≤ reply.body.length / 2 := by
  have hown := form.decode_eq_outcome reply.count
  have hplans (plan : Plan form.Content)
      (hplan : ∀ body, form.decode ⟨reply.count, body⟩ = plan.outcome form.isClosed body) :
      Plan.EndsAtRefusal (plan.log reply.body) (form.decode reply) ∧
        (plan.log reply.body).taken ≤ reply.body.length / 2 := by
    have htaken := plan.two_mul_taken_le reply.body
    refine ⟨(plan.endsAtRefusal_log reply.body).mono fun e he => ?_, by omega⟩
    exact (hplan reply.body).trans (Plan.outcome_of_error he)
  obtain ⟨hends, htaken⟩ := hplans _ hown
  refine ⟨hown, hends, htaken, hplans, fun hcount => ?_, fun content h => ?_⟩
  · refine exists_error_iff.2 fun content h => ?_
    have hfits := RecordForm.two_mul_count_le h
    omega
  · have hmembers := RecordForm.two_mul_length_members_le h
    omega

/-- As many rows are announced as a word can count, and the one that is there announces as many
cells. It is asked for, and so is its first cell; the second is refused, and nothing else is asked
for. -/
theorem reading_is_bounded_of_large_counts :
    let cell := encodeText "a"
    let record := writtenCount (2 ^ 63 - 1) ++ plainField cell
    let reply : Reply := ⟨2 ^ 63 - 1, plainField record⟩
    RecordForm.grid.log reply = [.ok record, .ok cell, .error .unterminatedNumber] ∧
    (RecordForm.grid.log reply).taken ≤ reply.body.length / 2 ∧
    reply.grid = .error .unterminatedNumber ∧ ∃ e, Reply.grid ⟨14, reply.body⟩ = .error e := by
  intro cell record reply
  have hlog : RecordForm.grid.log reply = [.ok record, .ok cell, .error .unterminatedNumber] := by
    let inner (count : Int) := (Grid.cellsPlan (fun _ => return ()) count).1
    obtain ⟨next, hplan⟩ : ∃ next, RecordForm.grid.plan (2 ^ 63 - 1) = .record inner next :=
      ⟨_, rfl⟩
    have hrecord : bytes.run reply.body = .ok (record, []) := (yields_bytes (by decide)).run
    have hcount : number.run record = .ok ((2 ^ 63 - 1 : Nat), plainField cell) :=
      number_writtenCount (by decide) _
    have hcell : bytes.run (plainField cell) = .ok (cell, []) := (yields_bytes (by decide)).run
    have hwithin : (inner (2 ^ 63 - 1 : Nat)).log (plainField cell) =
        [.ok cell, .error .unterminatedNumber] := by
      -- the cells are asked for one by one, so their number is kept from being computed with
      obtain ⟨n, hn⟩ : ∃ n, recordCount (2 ^ 63 - 1 : Nat) 1 = .ok (n + 2) := ⟨2 ^ 63 - 3, rfl⟩
      simp only [inner, Grid.cellsPlan]
      rw [hn]
      show Plan.asked (plainField cell) _ = _
      rw [Plan.asked_of_ok hcell]
      rfl
    have hinside : Plan.inside inner record = .error .unterminatedNumber :=
      Plan.inside_of_error hcount (Plan.endsAtRefusal_log _ _ [.ok cell] _ [] hwithin).2
    rw [RecordForm.log, hplan, Plan.log, Plan.asked_of_ok hrecord, Plan.opened, hcount]
    dsimp only
    rw [hwithin, hinside]
    rfl
  obtain ⟨-, hends, htaken, -⟩ := reading_is_bounded .grid reply
  rw [hlog] at hends
  obtain ⟨-, hgrid⟩ := hends [.ok _, .ok _] _ [] rfl
  obtain ⟨-, -, -, -, hrefused, -⟩ := reading_is_bounded .grid ⟨14, reply.body⟩
  exact ⟨hlog, htaken, hgrid, hrefused (by decide)⟩

end RemoteDev
