import RemoteDev.Proofs.Record.Written
import RemoteDev.Record.Grid

/-! Grids as they are sent. What is written for rows one by one, and for all their cells in one run,
is read back as the grid of these rows, whose cells stand where the run has them. -/
namespace RemoteDev

open FieldReader

namespace FieldReader

theorem yields_exactly {α : Type} {reader : FieldReader α} {written : α → Bytes} {n : Nat}
    {xs : List α} (hn : xs.length = n) (h : ∀ x ∈ xs, Yields reader (written x) x) :
    Yields (reader.exactly n) (xs.flatMap written) ⟨xs, hn⟩ := by
  subst hn
  induction xs with
  | nil => exact yields_pure _
  | cons x r ih =>
    have hothers := ih fun y hy => h y (List.mem_cons_of_mem x hy)
    rw [List.flatMap_cons]
    exact (h x List.mem_cons_self).bind (hothers.map rfl)

end FieldReader

namespace Grid

variable {columns : Nat}

def cellFields (row : Row columns) : List Bytes := row.val.map encodeText

/-- All cells of a grid, the names first and then row after row. -/
def cells (g : Grid) : List String := g.names.val ++ g.data.flatMap Subtype.val

theorem length_flatMap_rows (data : List (Row columns)) :
    (data.flatMap Subtype.val).length = data.length * columns := by
  induction data with
  | nil => simp
  | cons row r ih => rw [List.flatMap_cons, List.length_append, row.property, ih, List.length_cons,
      Nat.add_one_mul, Nat.add_comm]

theorem length_flatMap_cellFields (rows : List (Row columns)) :
    (rows.flatMap cellFields).length = rows.length * columns := by
  have hcells : rows.flatMap cellFields = (rows.flatMap Subtype.val).map encodeText :=
    List.map_flatMap.symm
  rw [hcells, List.length_map, length_flatMap_rows]

theorem getElem?_flatMap_rows (data : List (Row columns)) {row column : Nat}
    (h : column < columns) :
    (data.flatMap Subtype.val)[row * columns + column]? =
      data[row]?.bind fun cells => cells.val[column]? := by
  induction data generalizing row with
  | nil => simp
  | cons first r ih =>
    rw [List.flatMap_cons]
    cases row with
    | zero =>
      rw [Nat.zero_mul, Nat.zero_add, List.getElem?_append_left (by rw [first.property]; exact h)]
      rfl
    | succ row =>
      have hbeyond : columns ≤ (row + 1) * columns + column := by
        rw [Nat.add_one_mul]
        omega
      have hless : (row + 1) * columns + column - columns = row * columns + column := by
        rw [Nat.add_one_mul]
        omega
      rw [List.getElem?_append_right (by rw [first.property]; exact hbeyond), first.property, hless,
        ih, List.getElem?_cons_succ]

theorem cell?_eq_bind (g : Grid) (row column : Nat) :
    g.cell? row column = g.data[row]?.bind fun cells => cells.val[column]? := by
  rw [cell?, row?, Option.bind_map]
  rfl

/-- A cell stands in the run of cells as many rows and columns on as its indices say. -/
theorem cell?_eq_getElem? (g : Grid) {row column : Nat} (h : column < g.columns) :
    g.cell? row column = g.cells[(row + 1) * g.columns + column]? := by
  have hwhole : g.cells = (g.names :: g.data).flatMap Subtype.val := (List.flatMap_cons ..).symm
  rw [cell?_eq_bind, hwhole, getElem?_flatMap_rows _ h, List.getElem?_cons_succ]

theorem yields_cells {row : Row columns}
    (h : ((cellFields row).flatMap plainField).length < 2 ^ 63) :
    Yields (text.exactly columns) ((cellFields row).flatMap plainField) row := by
  rw [cellFields, List.flatMap_map]
  refine yields_exactly row.property fun cell hcell => yields_text ?_
  exact length_lt_of_mem_plainFields h (List.mem_map_of_mem hcell)

theorem value_rowCells {check : Nat → Except FieldError Unit} {row : Row columns}
    (hcheck : check columns = .ok ()) (h : (countedFields (cellFields row)).length < 2 ^ 63) :
    (rowCells check).value (countedFields (cellFields row)) = .ok ⟨columns, row⟩ := by
  have hwidth : (cellFields row).length = columns := by
    rw [cellFields, List.length_map, row.property]
  have hbody : ((cellFields row).flatMap plainField).length < 2 ^ 63 := by
    rw [countedFields, List.length_append] at h
    omega
  have hcount : columns < 2 ^ 63 := by
    have hfields := length_le_length_flatMap_of_pos length_plainField_pos (cellFields row)
    omega
  have hrecords := recordCount_mul columns Nat.one_pos
  rw [Nat.mul_one] at hrecords
  rw [value, rowCells, countedFields, hwidth, run_bind_of_ok (yields_number hcount _),
    run_liftM_bind hrecords, run_liftM_bind hcheck, run_bind_of_ok (yields_cells hbody).run]
  rfl

theorem yields_nestedRow {check : Nat → Except FieldError Unit} {row : Row columns}
    (hcheck : check columns = .ok ()) (h : (countedFields (cellFields row)).length < 2 ^ 63) :
    Yields (nestedRow check) (plainField (countedFields (cellFields row))) ⟨columns, row⟩ := by
  refine (yields_bytes h).map ?_
  rw [value_rowCells hcheck h]
  rfl

theorem yields_fittingRow {row : Row columns}
    (h : (countedFields (cellFields row)).length < 2 ^ 63) :
    Yields (fittingRow columns) (plainField (countedFields (cellFields row))) row := by
  refine (yields_nestedRow (if_pos rfl) h).map ?_
  exact dif_pos rfl

def rowRecords (rows : List (Row columns)) : List Bytes :=
  rows.map fun row => countedFields (cellFields row)

theorem yields_nestedReader {names : Row columns} {data : List (Row columns)}
    (hcolumns : 0 < columns)
    (h : ((rowRecords (names :: data)).flatMap plainField).length < 2 ^ 63) :
    Yields (nestedReader data.length) ((rowRecords (names :: data)).flatMap plainField)
      ⟨columns, names, data⟩ := by
  have hrecord {row : Row columns} (hrow : row ∈ names :: data) :
      (countedFields (cellFields row)).length < 2 ^ 63 :=
    length_lt_of_mem_plainFields h (List.mem_map_of_mem hrow)
  have hnames : Yields (nestedRow fun _ => return ()) _ _ :=
    yields_nestedRow rfl (hrecord List.mem_cons_self)
  have hdata := yields_repeated fun row hrow =>
    yields_fittingRow (hrecord (List.mem_cons_of_mem names hrow))
  rw [rowRecords, List.flatMap_map, List.flatMap_cons, nestedReader]
  refine hnames.bind (hdata.map ?_)
  rw [ofRows, if_neg (Nat.ne_of_gt hcolumns)]

theorem yields_flatReader {names : Row columns} {data : List (Row columns)}
    (hcolumns : 0 < columns)
    (h : (((names :: data).flatMap cellFields).flatMap plainField).length < 2 ^ 63) :
    Yields (flatReader columns data.length)
      (((names :: data).flatMap cellFields).flatMap plainField) ⟨columns, names, data⟩ := by
  rw [List.flatMap_assoc] at h ⊢
  have hcells {row : Row columns} (hrow : row ∈ names :: data) :
      ((cellFields row).flatMap plainField).length < 2 ^ 63 := by
    have hrun := length_le_of_mem_flatMap (fun row => (cellFields row).flatMap plainField) hrow
    exact Nat.lt_of_le_of_lt hrun h
  have hnames := yields_cells (hcells List.mem_cons_self)
  have hdata := yields_repeated fun row hrow =>
    yields_cells (hcells (List.mem_cons_of_mem names hrow))
  rw [List.flatMap_cons, flatReader]
  refine hnames.bind (hdata.map ?_)
  rw [ofRows, if_neg (Nat.ne_of_gt hcolumns)]

theorem grid_ofFields {names : Row columns} {data : List (Row columns)} (hcolumns : 0 < columns)
    (h : ((rowRecords (names :: data)).flatMap plainField).length < 2 ^ 63) :
    (Reply.ofFields (rowRecords (names :: data))).grid = .ok ⟨columns, names, data⟩ := by
  have hrecords := recordCount_mul (names :: data).length Nat.one_pos
  have hcount : (Reply.ofFields (rowRecords (names :: data))).count =
      (names :: data).length * 1 := by
    rw [Nat.mul_one]
    exact List.length_map _
  rw [Reply.grid, hcount, hrecords, ok_bind, List.length_cons]
  exact (yields_nestedReader hcolumns h).value

theorem flatGrid_ofFields {names : Row columns} {data : List (Row columns)} (hcolumns : 0 < columns)
    (h : (((names :: data).flatMap cellFields).flatMap plainField).length < 2 ^ 63) :
    (Reply.ofFields ((names :: data).flatMap cellFields)).flatGrid columns =
      .ok ⟨columns, names, data⟩ := by
  have hrecords := recordCount_mul (names :: data).length hcolumns
  have hcount : (Reply.ofFields ((names :: data).flatMap cellFields)).count =
      (names :: data).length * columns := length_flatMap_cellFields (names :: data)
  rw [Reply.flatGrid, if_neg (Nat.ne_of_gt hcolumns), hcount, hrecords]
  simp only [ok_bind, List.length_cons]
  exact (yields_flatReader hcolumns h).value

end Grid
end RemoteDev
