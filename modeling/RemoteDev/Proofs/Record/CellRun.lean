import RemoteDev.Proofs.Record.GridShape
import RemoteDev.Record.CellRun

/-! Runs of cells as grids. A reader of cells in one run does what the reader of rows does, and what
is then taken out of the run is what the rows hold. So no stretch of a run that has been read
reaches beyond it, and only a place that the grid does not have is left without an answer. -/
namespace RemoteDev

open FieldReader

namespace FieldReader

variable {α β : Type} {reader : FieldReader α}

theorem repeated_add_eq (reader : FieldReader α) (m n : Nat) :
    reader.repeated (m + n) = do
      let xs ← reader.repeated m
      let ys ← reader.repeated n
      return xs ++ ys := by
  induction m with
  | zero => simp [repeated]
  | succ m ih =>
    rw [Nat.add_right_comm, repeated, ih]
    simp [repeated]

/-- Many values are as many lists of a fixed length, one behind the other. -/
theorem repeated_mul_eq (reader : FieldReader α) (n k : Nat) :
    reader.repeated (n * k) = List.flatten <$> (reader.repeated k).repeated n := by
  induction n with
  | zero => simp [repeated]
  | succ n ih =>
    rw [Nat.add_one_mul, Nat.add_comm, repeated_add_eq, ih]
    simp [repeated]

theorem repeated_map (f : α → β) (reader : FieldReader α) (n : Nat) :
    (f <$> reader).repeated n = List.map f <$> reader.repeated n := by
  induction n with
  | zero => simp [repeated]
  | succ n ih =>
    rw [repeated, ih]
    simp [repeated]

theorem value_map (f : α → β) (data : Bytes) :
    (f <$> reader).value data = (reader.value data).map f := by
  rw [value, value, StateT.run_map]
  cases reader.run data <;> rfl

theorem liftM_map (f : α → β) (outcome : Except FieldError α) :
    (liftM (outcome.map f) : FieldReader β) = f <$> (liftM outcome : FieldReader α) := by
  cases outcome <;> rfl

end FieldReader

namespace CellRun

variable (check : Nat → Except FieldError Unit)

theorem recordCells_eq :
    recordCells check = (fun row => (row.1, row.2.val)) <$> Grid.rowCells check := by
  simp only [recordCells, Grid.rowCells, ← map_val_exactly, map_bind, bind_map_left, map_pure]

theorem nestedRecord_eq :
    nestedRecord check = (fun row => (row.1, row.2.val)) <$> Grid.nestedRow check := by
  simp only [nestedRecord, Grid.nestedRow, recordCells_eq, value_map, liftM_map, map_bind]

theorem fittingRecord_eq (columns : Nat) :
    fittingRecord columns = Subtype.val <$> Grid.fittingRow columns := by
  refine StateT.ext fun data => ?_
  rw [fittingRecord, nestedRecord_eq, bind_map_left, Grid.fittingRow, map_bind]
  cases hrow : (Grid.nestedRow (Grid.widthCheck columns)).run data with
  | error e => rw [run_bind_of_error hrow, run_bind_of_error hrow]
  | ok p =>
    obtain ⟨⟨width, row⟩, rest⟩ := p
    obtain ⟨record, -, hcheck, -⟩ := (Grid.interprets_nestedRow _ _ _).1 hrow
    obtain rfl := Grid.widthCheck_eq_ok_iff.1 hcheck
    rw [run_bind_of_ok hrow, run_bind_of_ok hrow]
    dsimp only
    rw [dif_pos rfl]
    rfl

end CellRun

def Grid.run (g : Grid) : CellRun := ⟨g.columns, g.cells⟩

theorem Grid.run_ofRows {columns : Nat} (names : Row columns) (below : List (Row columns)) :
    (ofRows names below).run = ⟨columns, names.val ++ (below.map Subtype.val).flatten⟩ := by
  rw [run, cells_ofRows, List.flatMap_cons, List.flatMap_def]
  rfl

theorem CellRun.nestedReader_eq (rows : Nat) :
    nestedReader rows = Grid.run <$> Grid.nestedReader rows := by
  simp only [nestedReader, Grid.nestedReader, nestedRecord_eq, fittingRecord_eq, repeated_map,
    bind_map_left, map_bind, map_pure, Grid.run_ofRows]

theorem Grid.map_run_flatReader (columns rows : Nat) :
    Grid.run <$> flatReader columns rows =
      CellRun.mk columns <$> text.repeated ((rows + 1) * columns) := by
  rw [repeated_mul_eq, ← map_val_exactly text columns, repeated_map, repeated, flatReader]
  simp only [map_bind, map_pure, run_ofRows, List.map_cons, List.flatten_cons]

namespace Grid

/-- A grid without columns has no rows. -/
def NoEmptyRows (g : Grid) : Prop := g.columns = 0 → g.data = []

theorem noEmptyRows_ofRows {columns : Nat} (names : Row columns) (below : List (Row columns)) :
    (ofRows names below).NoEmptyRows := fun h => if_pos h

theorem length_cells (g : Grid) : g.cells.length = (g.data.length + 1) * g.columns :=
  length_flatMap_rows (g.names :: g.data)

theorem drop_flatMap_rows {columns : Nat} (data : List (Row columns)) (row : Nat) :
    (data.flatMap Subtype.val).drop (row * columns) = (data.drop row).flatMap Subtype.val := by
  induction row generalizing data with
  | zero => simp
  | succ row ih =>
    cases data with
    | nil => simp
    | cons first r =>
      rw [List.flatMap_cons, List.drop_succ_cons, ← ih, Nat.add_one_mul, Nat.add_comm,
        ← List.drop_drop, List.drop_left' first.property]

theorem stretch_run (g : Grid) {row : Nat} {cells : Row g.columns}
    (h : (g.names :: g.data)[row]? = some cells) :
    g.run.stretch (row * g.columns) (row * g.columns + g.columns) = .ok cells.val := by
  obtain ⟨hrow, hcells⟩ := List.getElem?_eq_some_iff.1 h
  have hbelow : (row + 1) * g.columns ≤ (g.data.length + 1) * g.columns :=
    Nat.mul_le_mul_right _ hrow
  have hinside : row * g.columns + g.columns ≤ g.run.cells.length := by
    rwa [Nat.add_one_mul, ← length_cells] at hbelow
  have hwhole : g.run.cells = (g.names :: g.data).flatMap Subtype.val := (List.flatMap_cons ..).symm
  rw [CellRun.stretch, if_pos ⟨Nat.le_add_right _ _, hinside⟩, Nat.add_sub_cancel_left, hwhole,
    drop_flatMap_rows, List.drop_eq_getElem_cons hrow, hcells, List.flatMap_cons,
    List.take_left' cells.property]

theorem rows_run {g : Grid} (h : g.NoEmptyRows) : g.run.rows = .ok g.rows := by
  rw [CellRun.rows]
  split
  case isTrue hnone =>
    rw [rows, h hnone]
    rfl
  case isFalse hcolumns =>
    have hquotient : g.run.cells.length / g.run.columns = g.data.length + 1 := by
      rw [run, length_cells]
      exact Nat.mul_div_cancel _ (Nat.pos_of_ne_zero hcolumns)
    rw [hquotient]
    rfl

theorem names_run (g : Grid) : g.run.names = .ok g.names.val := by
  have hfirst := @stretch_run g 0 g.names rfl
  rwa [Nat.zero_mul, Nat.zero_add] at hfirst

theorem columnName?_run (g : Grid) (column : Nat) :
    g.run.columnName? column = .ok (g.columnName? column) := by
  rw [CellRun.columnName?, names_run]
  rfl

theorem row?_run {g : Grid} (h : g.NoEmptyRows) (row : Nat) :
    g.run.row? row = .ok (g.row? row) := by
  rw [CellRun.row?, rows_run h, ok_bind, row?]
  split
  case isTrue hbeyond =>
    rw [List.getElem?_eq_none hbeyond]
    rfl
  case isFalse hrow =>
    have hfound := List.getElem?_eq_getElem (Nat.not_le.1 hrow)
    have hstretch := @stretch_run g (row + 1) _ (List.getElem?_cons_succ.trans hfound)
    rw [hfound, Option.map_some]
    exact congrArg (Except.map some) hstretch

theorem cell?_run {g : Grid} (h : g.NoEmptyRows) (row column : Nat) :
    g.run.cell? row column = .ok (g.cell? row column) := by
  rw [CellRun.cell?, row?_run h]
  rfl

theorem isSome_row?_iff (g : Grid) (row : Nat) : (g.row? row).isSome ↔ row < g.rows := by
  simp [row?, rows]

theorem isSome_cell?_iff (g : Grid) (row column : Nat) :
    (g.cell? row column).isSome ↔ row < g.rows ∧ column < g.columns := by
  rw [cell?]
  cases hrow : g.row? row with
  | none =>
    have hbeyond := (isSome_row?_iff g row).not.1 (by simp [hrow])
    simp [hbeyond]
  | some cells =>
    have hinside := (isSome_row?_iff g row).1 (by simp [hrow])
    simp [hinside, length_of_row? hrow]

end Grid

namespace Reply

theorem cellRun_eq (reply : Reply) : reply.cellRun = reply.grid.map Grid.run := by
  rw [cellRun, grid]
  cases recordCount reply.count 1 with
  | error e => rfl
  | ok records =>
    cases records with
    | zero => rfl
    | succ rows => simp only [ok_bind, read, CellRun.nestedReader_eq, value_map]

theorem flatCellRun_eq (reply : Reply) (columns : Nat) :
    reply.flatCellRun columns = (reply.flatGrid columns).map Grid.run := by
  rw [flatCellRun, flatGrid]
  by_cases hcolumns : columns = 0
  · rw [if_pos hcolumns, if_pos hcolumns]
    rfl
  · rw [if_neg hcolumns, if_neg hcolumns]
    cases recordCount reply.count columns with
    | error e => rfl
    | ok records =>
      cases records with
      | zero => rfl
      | succ rows =>
        have hread := congrArg (fun reader => reader.value reply.body)
          (Grid.map_run_flatReader columns rows)
        simp only [value_map] at hread
        simp only [ok_bind, read, hread]
        cases (text.repeated ((rows + 1) * columns)).value reply.body <;> rfl

theorem cellRun_eq_ok_iff {reply : Reply} {run : CellRun} :
    reply.cellRun = .ok run ↔ ∃ g, reply.grid = .ok g ∧ g.run = run := by
  rw [cellRun_eq]
  exact map_eq_ok

theorem flatCellRun_eq_ok_iff {reply : Reply} {columns : Nat} {run : CellRun} :
    reply.flatCellRun columns = .ok run ↔ ∃ g, reply.flatGrid columns = .ok g ∧ g.run = run := by
  rw [flatCellRun_eq]
  exact map_eq_ok

theorem noEmptyRows_of_grid {reply : Reply} {g : Grid} (h : reply.grid = .ok g) :
    g.NoEmptyRows := by
  obtain ⟨columns, names, below, -, rfl⟩ := grid_eq_ok_iff.1 h
  exact Grid.noEmptyRows_ofRows names below

theorem noEmptyRows_of_flatGrid {reply : Reply} {columns : Nat} {g : Grid}
    (h : reply.flatGrid columns = .ok g) : g.NoEmptyRows := by
  rw [flatGrid] at h
  split at h
  · cases h
  · obtain ⟨records, -, h⟩ := bind_eq_ok.1 h
    cases records with
    | zero => cases h
    | succ rows =>
      obtain ⟨rest, hrun⟩ := value_eq_ok.1 h
      obtain ⟨names, _, _, hbelow⟩ := run_bind_eq_ok.1 hrun
      obtain ⟨below, _, _, hpure⟩ := run_bind_eq_ok.1 hbelow
      cases hpure
      exact Grid.noEmptyRows_ofRows names below

/-- A grid has the cells of all records in their order, each record as many as the grid has columns
and nothing after them. It has a row for each record but the first if it has a column; records
without cells are accepted too, and make a grid without columns and without rows. So it is with the
run of its cells. -/
theorem grid_keeps_shape (reply : Reply) :
    (∀ g, reply.grid = .ok g → ∃ rows, rows ≠ [] ∧
      reply.StatesRecords 1 bytes Grid.IsRow rows ∧ (∀ row ∈ rows, row.length = g.columns) ∧
      g.cells = rows.flatten ∧ g.cells.length = g.columns * reply.count ∧
      g.rows = if g.columns = 0 then 0 else reply.count - 1) ∧
    (∀ run, reply.cellRun = .ok run → ∃ rows, rows ≠ [] ∧
      reply.StatesRecords 1 bytes Grid.IsRow rows ∧ (∀ row ∈ rows, row.length = run.columns) ∧
      run.cells = rows.flatten ∧ run.cells.length = run.columns * reply.count ∧
      run.rows = .ok (if run.columns = 0 then 0 else reply.count - 1)) ∧
    ∀ rows columns, rows ≠ [] → reply.StatesRecords 1 bytes Grid.IsRow rows →
      (∀ row ∈ rows, row.length = columns) →
      ∃ g, reply.grid = .ok g ∧ g.columns = columns ∧ reply.cellRun = .ok g.run := by
  refine ⟨fun g => shape_of_grid, fun run h => ?_, fun rows columns hne hstates hwidth => ?_⟩
  · obtain ⟨g, hg, rfl⟩ := cellRun_eq_ok_iff.1 h
    obtain ⟨rows, hne, hstates, hwidth, hcells, hlength, hrows⟩ := shape_of_grid hg
    refine ⟨rows, hne, hstates, hwidth, hcells, hlength, ?_⟩
    rw [Grid.rows_run (noEmptyRows_of_grid hg), hrows]
    rfl
  · obtain ⟨g, hg, hcolumns⟩ := exists_grid_of_states hne hstates hwidth
    exact ⟨g, hg, hcolumns, cellRun_eq_ok_iff.2 ⟨g, hg, rfl⟩⟩

/-- Two rows of two cells, of which one is empty and one looks like a length. -/
theorem grid_keeps_shape_of_two_rows :
    let names : Row 2 := ⟨["id", "2:"], rfl⟩
    let below : List (Row 2) := [⟨["1", ""], rfl⟩]
    let reply := ofFields (Grid.rowRecords (names :: below))
    reply.grid = .ok ⟨2, names, below⟩ ∧ reply.cellRun = .ok ⟨2, ["id", "2:", "1", ""]⟩ ∧
      (∃ rows, rows ≠ [] ∧ reply.StatesRecords 1 bytes Grid.IsRow rows ∧
        (∀ row ∈ rows, row.length = 2) ∧ ["id", "2:", "1", ""] = rows.flatten ∧
        4 = 2 * reply.count ∧ 1 = reply.count - 1) ∧
      CellRun.rows ⟨2, ["id", "2:", "1", ""]⟩ = .ok 1 := by
  intro names below reply
  have hgrid : reply.grid = .ok ⟨2, names, below⟩ := Grid.grid_ofFields (by decide) (by decide)
  have hrun : reply.cellRun = .ok ⟨2, ["id", "2:", "1", ""]⟩ :=
    cellRun_eq_ok_iff.2 ⟨_, hgrid, rfl⟩
  obtain ⟨hshape, hruns, -⟩ := grid_keeps_shape reply
  obtain ⟨-, -, -, -, -, -, hrows⟩ := hruns _ hrun
  exact ⟨hgrid, hrun, hshape _ hgrid, hrows⟩

/-- Two records without cells are accepted, and one row is announced, but the grid has none. -/
theorem grid_drops_rows_without_columns :
    ∃ reply g, parse (written (encodeText "HTTP/1.0 200 OK\r\n") (["0:", "0:"].map encodeText)) =
        .ok reply ∧
      reply.grid = .ok g ∧ reply.count = 2 ∧ g.columns = 0 ∧ g.rows = 0 ∧
      reply.cellRun = .ok g.run ∧ g.run.rows = .ok 0 := by
  have hparse : parse (written (encodeText "HTTP/1.0 200 OK\r\n") (["0:", "0:"].map encodeText)) =
      .ok (ofFields (["0:", "0:"].map encodeText)) :=
    parse_written (by decide) (by decide) (by decide)
  have hrecords := @repeated_bytes_ofFields (["0:", "0:"].map encodeText) (by decide)
  have hrow : Grid.IsRow (encodeText "0:") [] := ⟨[], rfl, rfl⟩
  have hgrid : (ofFields (["0:", "0:"].map encodeText)).grid = .ok ⟨0, ⟨[], rfl⟩, []⟩ :=
    grid_eq_ok_iff.2 ⟨0, ⟨[], rfl⟩, [⟨[], rfl⟩],
      ⟨rfl, _, [], hrecords, .cons hrow (.cons hrow .nil)⟩, rfl⟩
  have hrun : (ofFields (["0:", "0:"].map encodeText)).cellRun = .ok ⟨0, []⟩ :=
    cellRun_eq_ok_iff.2 ⟨_, hgrid, rfl⟩
  exact ⟨_, _, hparse, hgrid, rfl, rfl, rfl, hrun, rfl⟩

end Reply

namespace Grid

/-- Rows of one width make the same grid whether they are sent one by one, each with its own count,
or as one run of cells, in messages that a signed word can count. The first row has the names of the
columns, and a cell stands in the run as many rows and columns on as its indices say. The cells that
are stored are the same run as well, and what is taken out of it is what the grid holds. -/
theorem grid_eq_flatGrid {columns : Nat} {head : Bytes}
    (hstatus : ∃ line ∈ Reply.statusLines, line <+: head) (hhead : ¬ Reply.headEnd <:+: head)
    (hcolumns : 0 < columns) (names : Row columns) (data : List (Row columns))
    (hrows : (Reply.written head (rowRecords (names :: data))).length < 2 ^ 63)
    (hcells : (Reply.written head ((names :: data).flatMap cellFields)).length < 2 ^ 63) :
    ∃ byRow byCell g,
      Reply.parse (Reply.written head (rowRecords (names :: data))) = .ok byRow ∧
      Reply.parse (Reply.written head ((names :: data).flatMap cellFields)) = .ok byCell ∧
      byRow.grid = .ok g ∧ byCell.flatGrid columns = .ok g ∧
      g.columns = columns ∧ g.rows = data.length ∧ g.names.val = names.val ∧
      g.cells = (names :: data).flatMap Subtype.val ∧
      (∀ row column,
        g.cell? row column = ((names :: data)[row + 1]?).bind (fun cells => cells.val[column]?) ∧
        (column < columns → g.cell? row column = g.cells[(row + 1) * columns + column]?)) ∧
      byRow.cellRun = .ok g.run ∧ byCell.flatCellRun columns = .ok g.run ∧
      g.run.columns = columns ∧ g.run.cells = g.cells ∧ g.run.rows = .ok data.length ∧
      g.run.names = .ok names.val ∧
      ∀ row column, g.run.cell? row column = .ok (g.cell? row column) := by
  have hbyRow := Nat.lt_of_le_of_lt (Reply.length_body_le_length_written head _) hrows
  have hbyCell := Nat.lt_of_le_of_lt (Reply.length_body_le_length_written head _) hcells
  have hgrid := grid_ofFields hcolumns hbyRow
  have hflat := flatGrid_ofFields hcolumns hbyCell
  have hempty : NoEmptyRows ⟨columns, names, data⟩ := Reply.noEmptyRows_of_grid hgrid
  refine ⟨_, _, ⟨columns, names, data⟩, Reply.parse_written hstatus hhead hrows,
    Reply.parse_written hstatus hhead hcells, hgrid, hflat, rfl, rfl, rfl, ?_,
    fun row column => ⟨?_, ?_⟩, Reply.cellRun_eq_ok_iff.2 ⟨_, hgrid, rfl⟩,
    Reply.flatCellRun_eq_ok_iff.2 ⟨_, hflat, rfl⟩, rfl, rfl, rows_run hempty, names_run _,
    cell?_run hempty⟩
  · rw [cells, List.flatMap_cons]
  · rw [cell?_eq_bind, List.getElem?_cons_succ]
  · exact cell?_eq_getElem? ⟨columns, names, data⟩

/-- Cells that are empty or imitate a tag, a length and a count. -/
theorem grid_eq_flatGrid_of_three_rows :
    let head := encodeText "HTTP/1.1 200 OK"
    let names : Row 2 := ⟨["ID", "é:"], rfl⟩
    let data : List (Row 2) := [⟨["1", ""], rfl⟩, ⟨["STR:0:", "2:x"], rfl⟩]
    (∃ line ∈ Reply.statusLines, line <+: head) ∧ ¬ Reply.headEnd <:+: head ∧
      (Reply.written head (rowRecords (names :: data))).length < 2 ^ 63 ∧
      (Reply.written head ((names :: data).flatMap cellFields)).length < 2 ^ 63 ∧
      ∃ byRow byCell g,
        Reply.parse (Reply.written head (rowRecords (names :: data))) = .ok byRow ∧
        Reply.parse (Reply.written head ((names :: data).flatMap cellFields)) = .ok byCell ∧
        byRow.grid = .ok g ∧ byCell.flatGrid 2 = .ok g ∧
        g.columns = 2 ∧ g.rows = 2 ∧ g.names.val = ["ID", "é:"] ∧
        g.cells = ["ID", "é:", "1", "", "STR:0:", "2:x"] ∧
        (∀ row column,
          g.cell? row column = ((names :: data)[row + 1]?).bind (fun cells => cells.val[column]?) ∧
          (column < 2 → g.cell? row column = g.cells[(row + 1) * 2 + column]?)) ∧
        byRow.cellRun = .ok g.run ∧ byCell.flatCellRun 2 = .ok g.run ∧
        g.run.columns = 2 ∧ g.run.cells = g.cells ∧ g.run.rows = .ok 2 ∧
        g.run.names = .ok ["ID", "é:"] ∧
        ∀ row column, g.run.cell? row column = .ok (g.cell? row column) := by
  intro head names data
  have hstatus : ∃ line ∈ Reply.statusLines, line <+: head := by decide
  have hhead : ¬ Reply.headEnd <:+: head := by decide
  have hrows : (Reply.written head (rowRecords (names :: data))).length < 2 ^ 63 := by decide
  have hcells : (Reply.written head ((names :: data).flatMap cellFields)).length < 2 ^ 63 := by
    decide
  exact ⟨hstatus, hhead, hrows, hcells,
    grid_eq_flatGrid hstatus hhead (by decide) names data hrows hcells⟩

end Grid

namespace CellRun

/-- Whatever is asked of a run that a reply has been read into, there is no fault. There are as many
names as columns and as many cells in each row, and a row, a cell or the name of a column is there
exactly if its place is in the grid. -/
theorem accesses_in_bounds {reply : Reply} {run : CellRun}
    (h : reply.cellRun = .ok run ∨ ∃ columns, reply.flatCellRun columns = .ok run) :
    ∃ rows names, run.rows = .ok rows ∧ run.names = .ok names ∧ names.length = run.columns ∧
      (∀ column, ∃ name, run.columnName? column = .ok name ∧
        (name.isSome ↔ column < run.columns)) ∧
      (∀ row, ∃ cells, run.row? row = .ok cells ∧ (cells.isSome ↔ row < rows) ∧
        ∀ found ∈ cells, found.length = run.columns) ∧
      ∀ row column, ∃ cell, run.cell? row column = .ok cell ∧
        (cell.isSome ↔ row < rows ∧ column < run.columns) := by
  have hgrid : ∃ g : Grid, g.NoEmptyRows ∧ run = g.run := by
    rcases h with h | ⟨columns, h⟩
    · obtain ⟨g, hg, rfl⟩ := Reply.cellRun_eq_ok_iff.1 h
      exact ⟨g, Reply.noEmptyRows_of_grid hg, rfl⟩
    · obtain ⟨g, hg, rfl⟩ := Reply.flatCellRun_eq_ok_iff.1 h
      exact ⟨g, Reply.noEmptyRows_of_flatGrid hg, rfl⟩
  obtain ⟨g, hrows, rfl⟩ := hgrid
  refine ⟨g.rows, g.names.val, Grid.rows_run hrows, g.names_run, g.names.property,
    fun column => ⟨_, g.columnName?_run column, ?_⟩, fun row => ⟨_, Grid.row?_run hrows row,
      g.isSome_row?_iff row, fun found hfound => Grid.length_of_row? hfound⟩,
    fun row column => ⟨_, Grid.cell?_run hrows row column, g.isSome_cell?_iff row column⟩⟩
  simp [Grid.columnName?, g.names.property, Grid.run]

/-- One row below two names, with a cell that is empty and one that looks like a length. -/
theorem accesses_in_bounds_of_two_columns :
    let reply := Reply.ofFields
      (Grid.rowRecords [(⟨["id", "2:"], rfl⟩ : Row 2), ⟨["1", ""], rfl⟩])
    let run : CellRun := ⟨2, ["id", "2:", "1", ""]⟩
    (reply.cellRun = .ok run ∨ ∃ columns, reply.flatCellRun columns = .ok run) ∧
    ∃ rows names, run.rows = .ok rows ∧ run.names = .ok names ∧ names.length = 2 ∧
      (∀ column, ∃ name, run.columnName? column = .ok name ∧ (name.isSome ↔ column < 2)) ∧
      (∀ row, ∃ cells, run.row? row = .ok cells ∧ (cells.isSome ↔ row < rows) ∧
        ∀ found ∈ cells, found.length = 2) ∧
      ∀ row column, ∃ cell, run.cell? row column = .ok cell ∧
        (cell.isSome ↔ row < rows ∧ column < 2) := by
  intro reply run
  have hread : reply.cellRun = .ok run :=
    Reply.cellRun_eq_ok_iff.2 ⟨_, Grid.grid_ofFields (by decide) (by decide), rfl⟩
  exact ⟨.inl hread, accesses_in_bounds (.inl hread)⟩

end CellRun
end RemoteDev
