import RemoteDev.Wire

/-! Result grids: a row of column names and rows of cells, all of one width. A reply carries a
grid row by row, each row with a count of its own, or as one run of cells. -/
namespace RemoteDev

namespace FieldReader

/-- The same reader a number of times, with the length of the list in its type. -/
def exactly {α : Type} (reader : FieldReader α) :
    (n : Nat) → FieldReader { xs : List α // xs.length = n }
  | 0 => return ⟨[], rfl⟩
  | n + 1 => do
    let x ← reader
    let ⟨xs, h⟩ ← exactly reader n
    return ⟨x :: xs, by rw [List.length_cons, h]⟩

end FieldReader

abbrev Row (columns : Nat) := { cells : List String // cells.length = columns }

structure Grid where
  columns : Nat
  names : Row columns
  data : List (Row columns)

namespace Grid

/-- A grid without columns has no rows. -/
def ofRows {columns : Nat} (names : Row columns) (data : List (Row columns)) : Grid :=
  ⟨columns, names, if columns = 0 then [] else data⟩

def rows (g : Grid) : Nat := g.data.length

def columnName? (g : Grid) (column : Nat) : Option String := g.names.val[column]?

def row? (g : Grid) (row : Nat) : Option (List String) := g.data[row]?.map Subtype.val

def cell? (g : Grid) (row column : Nat) : Option String :=
  (g.row? row).bind fun cells => cells[column]?

theorem length_of_row? {g : Grid} {row : Nat} {cells : List String}
    (h : g.row? row = some cells) : cells.length = g.columns := by
  obtain ⟨r, -, rfl⟩ := Option.map_eq_some_iff.1 h
  exact r.property

/-- The cells of a row that carries their count, which the check may refuse. -/
def rowCells (check : Nat → Except FieldError Unit) :
    FieldReader ((columns : Nat) × Row columns) := do
  let count ← FieldReader.number
  let width ← FieldReader.recordCount count 1
  check width
  let cells ← FieldReader.text.exactly width
  FieldReader.finish
  return ⟨width, cells⟩

def widthCheck (columns width : Nat) : Except FieldError Unit :=
  if width = columns then return ()
  else throw (.invalidField "row" (.rowWidth width columns))

def nestedRow (check : Nat → Except FieldError Unit) :
    FieldReader ((columns : Nat) × Row columns) := do
  let record ← FieldReader.bytes
  (rowCells check).value record

def fittingRow (columns : Nat) : FieldReader (Row columns) := do
  let ⟨width, cells⟩ ← nestedRow (widthCheck columns)
  if h : width = columns then return h ▸ cells
  else throw (.invalidField "row" (.rowWidth width columns))

def nestedReader (rows : Nat) : FieldReader Grid := do
  let ⟨columns, names⟩ ← nestedRow fun _ => return ()
  let data ← (fittingRow columns).repeated rows
  return ofRows names data

def flatReader (columns rows : Nat) : FieldReader Grid := do
  let names ← FieldReader.text.exactly columns
  let data ← (FieldReader.text.exactly columns).repeated rows
  return ofRows names data

end Grid

namespace Reply

def grid (reply : Reply) : Except FieldError Grid := do
  let records ← FieldReader.recordCount reply.count 1
  match records with
  | 0 => throw (.fieldCount (.atLeast 1) 0)
  | rows + 1 => reply.read (Grid.nestedReader rows)

def flatGrid (reply : Reply) (columns : Nat) : Except FieldError Grid := do
  if columns = 0 then throw (.invalidField "columns" .noColumns)
  let records ← FieldReader.recordCount reply.count columns
  match records with
  | 0 => throw (.fieldCount (.atLeast columns) 0)
  | rows + 1 => reply.read (Grid.flatReader columns rows)

end Reply
end RemoteDev
