import RemoteDev.Proofs.Record.Grid
import RemoteDev.Proofs.Record.Written

/-! The shape of a grid that is sent row by row. Every row record holds as many cells as the first
and nothing else, and the grid has all of them in their order. Its rows are the records after the
first, unless the records have no cells at all: such a grid is accepted, and has no rows. -/
namespace RemoteDev

open FieldReader

namespace FieldReader

variable {α : Type} {reader : FieldReader α} {data rest : Bytes}

theorem run_liftM_eq_ok {outcome : Except FieldError α} {a : α} :
    (liftM outcome : FieldReader α).run data = .ok (a, rest) ↔ outcome = .ok a ∧ data = rest := by
  cases outcome with
  | error e => exact ⟨nofun, nofun⟩
  | ok b =>
    constructor
    · intro h
      cases h
      exact ⟨rfl, rfl⟩
    · rintro ⟨h, rfl⟩
      cases h
      rfl

theorem finish_eq_ok {u : Unit} :
    finish.run data = .ok (u, rest) ↔ data = [] ∧ rest = [] := by
  cases data with
  | nil => exact ⟨fun h => by cases h; exact ⟨rfl, rfl⟩, fun h => by rw [h.2]; rfl⟩
  | cons b r => exact ⟨nofun, nofun⟩

theorem map_val_exactly (reader : FieldReader α) (n : Nat) :
    (Subtype.val <$> reader.exactly n : FieldReader (List α)) = reader.repeated n := by
  induction n with
  | zero => rfl
  | succ n ih =>
    rw [exactly, repeated, ← ih]
    simp only [map_bind, bind_map_left, map_pure]

theorem exactly_eq_ok_iff {n : Nat} {xs : { xs : List α // xs.length = n }} :
    (reader.exactly n).run data = .ok (xs, rest) ↔
      (reader.repeated n).run data = .ok (xs.val, rest) := by
  rw [← map_val_exactly, StateT.run_map]
  cases (reader.exactly n).run data with
  | error e => exact ⟨nofun, nofun⟩
  | ok p =>
    obtain ⟨found, left⟩ := p
    constructor
    · intro h
      cases h
      rfl
    · intro h
      obtain ⟨hval, rfl⟩ := Prod.mk.inj (Except.ok.inj h)
      obtain rfl : found = xs := Subtype.ext hval
      rfl

end FieldReader

namespace Grid

/-- A record of a row: how many cells it has, the cells, and nothing after them. -/
def IsRow (record : Bytes) (cells : List String) : Prop :=
  ∃ rest, number.run record = .ok ((cells.length : Int), rest) ∧
    (text.repeated cells.length).run rest = .ok (cells, [])

variable {columns : Nat} {check : Nat → Except FieldError Unit} {data rest : Bytes}

theorem value_rowCells_eq_ok_iff {record : Bytes} {row : Row columns} :
    (rowCells check).value record = .ok ⟨columns, row⟩ ↔
      check columns = .ok () ∧ IsRow record row.val := by
  rw [value_eq_ok, IsRow, row.property, rowCells]
  simp only [run_bind_eq_ok, run_liftM_eq_ok, recordCount_eq_ok_iff Nat.one_pos, Nat.mul_one,
    finish_eq_ok]
  constructor
  · rintro ⟨_, _, body, hcount, _, _, ⟨rfl, rfl⟩, _, _, ⟨hcheck, rfl⟩, found, _, hcells, _, _,
      ⟨rfl, rfl⟩, hpure⟩
    cases hpure
    exact ⟨hcheck, body, hcount, exactly_eq_ok_iff.1 hcells⟩
  · rintro ⟨hcheck, body, hcount, hcells⟩
    exact ⟨[], _, body, hcount, columns, body, ⟨rfl, rfl⟩, (), body, ⟨hcheck, rfl⟩, row, [],
      exactly_eq_ok_iff.2 hcells, (), [], ⟨rfl, rfl⟩, rfl⟩

theorem interprets_nestedRow : Interprets (nestedRow check) bytes
    fun record row => check row.1 = .ok () ∧ IsRow record row.2.val := by
  rintro data rest ⟨width, row⟩
  rw [nestedRow]
  simp only [run_bind_eq_ok, run_liftM_eq_ok, value_rowCells_eq_ok_iff]
  constructor
  · rintro ⟨record, _, hrecord, hrow, rfl⟩
    exact ⟨record, hrecord, hrow⟩
  · rintro ⟨record, hrecord, hrow⟩
    exact ⟨record, rest, hrecord, hrow, rfl⟩

theorem widthCheck_eq_ok_iff {width : Nat} :
    widthCheck columns width = .ok () ↔ width = columns := by
  rw [widthCheck]
  split
  case isTrue h => exact ⟨fun _ => h, fun _ => rfl⟩
  case isFalse h => exact ⟨nofun, fun hwidth => absurd hwidth h⟩

theorem interprets_fittingRow :
    Interprets (fittingRow columns) bytes fun record row => IsRow record row.val := by
  intro data rest row
  rw [fittingRow, run_bind_eq_ok]
  constructor
  · rintro ⟨⟨width, cells⟩, mid, hrow, h⟩
    obtain ⟨record, hrecord, hcheck, hcells⟩ := (interprets_nestedRow _ _ _).1 hrow
    obtain rfl := widthCheck_eq_ok_iff.1 hcheck
    dsimp only at h
    rw [dif_pos rfl] at h
    cases h
    exact ⟨record, hrecord, hcells⟩
  · rintro ⟨record, hrecord, hcells⟩
    refine ⟨⟨columns, row⟩, rest, (interprets_nestedRow _ _ _).2
      ⟨record, hrecord, widthCheck_eq_ok_iff.2 rfl, hcells⟩, ?_⟩
    dsimp only
    rw [dif_pos rfl]
    rfl

theorem nestedReader_eq_ok_iff {rows : Nat} {g : Grid} :
    (nestedReader rows).run data = .ok (g, rest) ↔
      ∃ records columns, ∃ names : Row columns, ∃ below : List (Row columns),
        (bytes.repeated (rows + 1)).run data = .ok (records, rest) ∧
        List.Forall₂ (fun record row => IsRow record row.val) records (names :: below) ∧
        g = ofRows names below := by
  rw [nestedReader]
  simp only [run_bind_eq_ok]
  constructor
  · rintro ⟨⟨columns, names⟩, mid, hnames, below, _, hbelow, hpure⟩
    cases hpure
    obtain ⟨record, hrecord, -, hfirst⟩ := (interprets_nestedRow _ _ _).1 hnames
    obtain ⟨records, hrecords, hothers⟩ := (interprets_fittingRow.repeated rows _ _ _).1 hbelow
    exact ⟨record :: records, columns, names, below, repeated_cons hrecord hrecords,
      .cons hfirst hothers, rfl⟩
  · rintro ⟨_, columns, names, below, hrun, hrows, rfl⟩
    obtain ⟨record, mid, records, hrecord, hrecords, rfl⟩ := repeated_succ_eq_ok.1 hrun
    cases hrows with
    | cons hfirst hothers =>
      exact ⟨⟨columns, names⟩, mid, (interprets_nestedRow _ _ _).2 ⟨record, hrecord, rfl, hfirst⟩,
        below, rest, (interprets_fittingRow.repeated rows _ _ _).2 ⟨records, hrecords, hothers⟩,
        rfl⟩

theorem rows_ofRows (names : Row columns) (below : List (Row columns)) :
    (ofRows names below).rows = if columns = 0 then 0 else below.length :=
  apply_ite List.length (columns = 0) [] below

theorem cells_ofRows (names : Row columns) (below : List (Row columns)) :
    (ofRows names below).cells = (names :: below).flatMap Subtype.val := by
  rw [cells, ofRows, List.flatMap_cons]
  by_cases hcolumns : columns = 0
  · -- rows that are dropped have no cells
    have hnone : below.flatMap Subtype.val = [] := by
      rw [← List.length_eq_zero_iff, length_flatMap_rows]
      exact Nat.mul_eq_zero.2 (.inr hcolumns)
    rw [if_pos hcolumns, hnone, List.flatMap_nil]
  · rw [if_neg hcolumns]

end Grid

namespace Reply

theorem grid_eq_ok_iff {reply : Reply} {g : Grid} :
    reply.grid = .ok g ↔ ∃ columns, ∃ names : Row columns, ∃ below : List (Row columns),
      reply.StatesRecords 1 bytes Grid.IsRow ((names :: below).map Subtype.val) ∧
        g = Grid.ofRows names below := by
  rw [grid, bind_eq_ok]
  simp only [recordCount_eq_ok_iff Nat.one_pos, Int.ofNat_inj, StatesRecords, List.length_map,
    List.forall₂_map_right_iff]
  constructor
  · rintro ⟨n, hcount, h⟩
    cases n with
    | zero => cases h
    | succ rows =>
      obtain ⟨rest, hrun⟩ := value_eq_ok.1 h
      obtain ⟨records, columns, names, below, hrecords, hrows, rfl⟩ :=
        Grid.nestedReader_eq_ok_iff.1 hrun
      have hlength : (names :: below).length = rows + 1 :=
        hrows.length_eq.symm.trans (length_of_repeated hrecords)
      rw [← hlength] at hcount hrecords
      exact ⟨columns, names, below, ⟨hcount, records, rest, hrecords, hrows⟩, rfl⟩
  · rintro ⟨columns, names, below, ⟨hcount, records, rest, hrecords, hrows⟩, rfl⟩
    refine ⟨_, hcount, value_eq_ok.2 ⟨rest, ?_⟩⟩
    exact Grid.nestedReader_eq_ok_iff.2
      ⟨records, columns, names, below, hrecords, hrows, rfl⟩

/-- A grid has the cells of all records in their order, each record as many as the grid has columns
and nothing after them. It has a row for each record but the first if it has a column. -/
theorem shape_of_grid {reply : Reply} {g : Grid} (h : reply.grid = .ok g) :
    ∃ rows, rows ≠ [] ∧ reply.StatesRecords 1 bytes Grid.IsRow rows ∧
      (∀ row ∈ rows, row.length = g.columns) ∧ g.cells = rows.flatten ∧
      g.cells.length = g.columns * reply.count ∧
      g.rows = if g.columns = 0 then 0 else reply.count - 1 := by
  obtain ⟨columns, names, below, hstates, rfl⟩ := grid_eq_ok_iff.1 h
  have hcount : reply.count = (names :: below).length := by
    rw [hstates.1, List.length_map, Nat.mul_one]
  refine ⟨(names :: below).map Subtype.val, List.cons_ne_nil _ _, hstates, ?_, ?_, ?_, ?_⟩
  · exact List.forall_mem_map.2 fun row _ => row.property
  · rw [Grid.cells_ofRows, List.flatMap_def]
  · rw [Grid.cells_ofRows, Grid.length_flatMap_rows, hcount, Nat.mul_comm]
    rfl
  · rw [Grid.rows_ofRows, hcount, List.length_cons, Nat.add_sub_cancel]
    rfl

theorem exists_grid_of_states {reply : Reply} {rows : List (List String)} {columns : Nat}
    (hne : rows ≠ []) (hstates : reply.StatesRecords 1 bytes Grid.IsRow rows)
    (hwidth : ∀ row ∈ rows, row.length = columns) :
    ∃ g, reply.grid = .ok g ∧ g.columns = columns := by
  lift rows to List (Row columns) using hwidth
  cases rows with
  | nil => exact absurd rfl hne
  | cons names below => exact ⟨_, grid_eq_ok_iff.2 ⟨columns, names, below, hstates, rfl⟩, rfl⟩

end Reply
end RemoteDev
