import RemoteDev.Record.Grid

/-! Grids in store. All cells of a grid stand in one run, the names of the columns first and then
row after row, and a row is a stretch of the run. A stretch is taken without a look at the shape of
the grid: one that reaches beyond the run is a fault, and so is the row of names missing. -/
namespace RemoteDev

/-- The width of a grid and all its cells. -/
structure CellRun where
  columns : Nat
  cells : List String
deriving DecidableEq, Repr

namespace CellRun

inductive Fault where
  | noNames
  | outside (start stop : Nat)
deriving DecidableEq, Repr

def stretch (run : CellRun) (start stop : Nat) : Except Fault (List String) :=
  if start ≤ stop ∧ stop ≤ run.cells.length then
    .ok ((run.cells.drop start).take (stop - start))
  else .error (.outside start stop)

/-- How many rows stand below the names, which are a row themselves. -/
def rows (run : CellRun) : Except Fault Nat :=
  if run.columns = 0 then .ok 0
  else match run.cells.length / run.columns with
    | 0 => .error .noNames
    | n + 1 => .ok n

def names (run : CellRun) : Except Fault (List String) := run.stretch 0 run.columns

def columnName? (run : CellRun) (column : Nat) : Except Fault (Option String) := do
  let names ← run.names
  return names[column]?

def row? (run : CellRun) (row : Nat) : Except Fault (Option (List String)) := do
  let rows ← run.rows
  if rows ≤ row then return none
  let start := (row + 1) * run.columns
  let cells ← run.stretch start (start + run.columns)
  return some cells

def cell? (run : CellRun) (row column : Nat) : Except Fault (Option String) := do
  let cells ← run.row? row
  return cells.bind fun found => found[column]?

/-- The cells of a record that carries their count, which the check may refuse, and the count. -/
def recordCells (check : Nat → Except FieldError Unit) : FieldReader (Nat × List String) := do
  let count ← FieldReader.number
  let width ← FieldReader.recordCount count 1
  check width
  let cells ← FieldReader.text.repeated width
  FieldReader.finish
  return (width, cells)

def nestedRecord (check : Nat → Except FieldError Unit) : FieldReader (Nat × List String) := do
  let record ← FieldReader.bytes
  (recordCells check).value record

def fittingRecord (columns : Nat) : FieldReader (List String) := do
  let (_, cells) ← nestedRecord (Grid.widthCheck columns)
  return cells

def nestedReader (rows : Nat) : FieldReader CellRun := do
  let (columns, names) ← nestedRecord fun _ => return ()
  let records ← (fittingRecord columns).repeated rows
  return ⟨columns, names ++ records.flatten⟩

end CellRun

namespace Reply

def cellRun (reply : Reply) : Except FieldError CellRun := do
  let records ← FieldReader.recordCount reply.count 1
  match records with
  | 0 => throw (.fieldCount (.atLeast 1) 0)
  | rows + 1 => reply.read (CellRun.nestedReader rows)

def flatCellRun (reply : Reply) (columns : Nat) : Except FieldError CellRun := do
  if columns = 0 then throw (.invalidField "columns" .noColumns)
  let records ← FieldReader.recordCount reply.count columns
  if records = 0 then throw (.fieldCount (.atLeast columns) 0)
  let cells ← reply.read (FieldReader.text.repeated (records * columns))
  return ⟨columns, cells⟩

end Reply
end RemoteDev
