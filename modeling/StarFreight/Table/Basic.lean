import StarFreight.Table.Cell
/-!
# Table — tables

A table has columns and rows. Its first `keyWidth` columns are its key, and no
two rows share it. A numbered table keeps its rows by number, and any other in
the order in which they came. Where a row of the same key is there, to `insert` a
row fails, to `add` it changes nothing, to `put` it replaces that row, and to
`upsert` it changes one column of that row.
-/

namespace StarFreight

/-- A column of a table. -/
structure Column where
  name : String
  affinity : Affinity := .untyped
  /-- Whether every row has a value in it. -/
  required : Bool := false
  /-- The value of a row that gives none. -/
  default : Cell := .null
deriving DecidableEq

/-- How a table comes by the keys of rows that give none. -/
inductive Numbering where
  | none
  /-- By the number after the largest in use. -/
  | nextFree
  /-- By the number after the largest ever used. -/
  | neverReused
deriving DecidableEq, Repr

/-- A row: a cell for every column. -/
abbrev Row := List Cell

/-- A table. -/
structure Table where
  columns : List Column
  /-- How many of the first columns form the key. -/
  keyWidth : Nat := 0
  /-- How rows without a key are numbered. -/
  numbering : Numbering := .none
  /-- The largest key number ever used. -/
  lastNumber : Int := 0
  rows : List Row := []
deriving DecidableEq

/-- Why a row does not come in. -/
inductive RowFault where
  /-- A column that needs a value has none. -/
  | missingValue (column : String)
  /-- A numbered key is no integer. -/
  | keyKind
  /-- There are more or fewer values than columns. -/
  | width (expected actual : Nat)
  | unknownColumn (column : String)
  /-- A row of the same key, which has these columns, is there. -/
  | keyTaken (columns : List String)
  /-- A row is to change the one of its key, which the table does not have for its
  key. -/
  | noKey
  /-- There is no number left to give. -/
  | numbersExhausted
deriving DecidableEq, Repr

namespace Table

/-- The cells of a row's key. -/
def keyOf (t : Table) (row : Row) : List Cell :=
  row.take t.keyWidth

/-- Whether the cells of one key come before those of another. -/
def keyLt : List Cell → List Cell → Bool
  | [], _ => false
  | _ :: _, [] => false
  | a :: as, b :: bs => a.lt b || (a.same b && keyLt as bs)

/-- Whether two keys are the same; a key with nothing in it is the same as no
other. -/
def keySame (a b : List Cell) : Bool :=
  a.length == b.length && (a.zip b).all fun (x, y) => x.equals y

/-- Whether a row has a key. -/
def holdsKey (t : Table) (key : List Cell) : Bool :=
  t.keyWidth != 0 && t.rows.any fun row => keySame (t.keyOf row) key

/-- Places a row in front of the first one whose key it comes before. -/
def placeByKey (t : Table) (row : Row) : List Row → List Row
  | [] => [row]
  | r :: rows =>
    if keyLt (t.keyOf row) (t.keyOf r) then row :: r :: rows else r :: placeByKey t row rows

/-- Places a row among others: by its number in a numbered table, and behind them
in any other. -/
def placeRow (t : Table) (row : Row) (rows : List Row) : List Row :=
  match t.numbering with
  | .none => rows ++ [row]
  | _ => t.placeByKey row rows

/-- The key numbers in use. -/
def numbers (t : Table) : List Int :=
  t.rows.filterMap fun row => match row with
    | .integer n :: _ => some n
    | _ => none

/-- The least positive number that no row has. -/
def leastFree (t : Table) : Int :=
  (((List.range t.rows.length).map fun n : Nat => (n : Int) + 1).find? fun n =>
    !t.numbers.contains n).getD (t.rows.length + 1)

/-- The number that a row without a key is given: the one after the largest, and
1 in a table without rows. Where that is no 64-bit integer, a number that is
free is given, unless numbers are never reused. -/
def nextNumber? (t : Table) : Option Int :=
  let following := match t.numbers.max? with
    | none => 1
    | some largest => largest + 1
  match t.numbering with
  | .neverReused =>
    let following := max following (t.lastNumber + 1)
    if Decimal.fitsInt64 following then some following else none
  | _ => some (if Decimal.fitsInt64 following then following else t.leastFree)

/-- The values of a row with the number it goes by in front, in a numbered
table; a row that gives none is given the next one. -/
def numbered (t : Table) (values : List Cell) : Except RowFault (List Cell) :=
  match t.numbering, values with
  | .none, values => .ok values
  | _, .null :: rest =>
    match t.nextNumber? with
    | some n => .ok (.integer n :: rest)
    | none => .error .numbersExhausted
  | _, key :: rest =>
    match Affinity.integer.store key with
    | .integer n => .ok (.integer n :: rest)
    | _ => .error .keyKind
  | _, [] => .ok []

/-- What is put into a column in place of nothing: its default, where a value is
needed. -/
def Column.fill (column : Column) (value : Cell) : Cell :=
  if column.required && value.isNull then column.default else value

/-- The cell that a column keeps of a value: what its affinity makes of it, unless that
is nothing and a value is needed. -/
def Column.accept (column : Column) (value : Cell) : Except RowFault Cell :=
  let cell := column.affinity.store value
  if column.required && cell.isNull then .error (.missingValue column.name) else .ok cell

/-- The row that a table keeps of the given values once they are filled in by column.
The number is looked at before the other columns. -/
def acceptWith (fill : Column → Cell → Cell) (t : Table) (values : List Cell) :
    Except RowFault Row :=
  if values.length ≠ t.columns.length then .error (.width t.columns.length values.length)
  else
    match t.numbered values with
    | .error fault => .error fault
    | .ok values =>
      (t.columns.zip values).mapM fun (column, value) => Column.accept column (fill column value)

/-- The row that a table keeps of the given values. -/
def accept (t : Table) (values : List Cell) : Except RowFault Row :=
  t.acceptWith (fun _ value => value) values

/-- A table after a row has been given the key number `row` starts with. -/
def recordNumber (t : Table) (row : Row) : Table :=
  match t.numbering, row with
  | .neverReused, .integer n :: _ => { t with lastNumber := max t.lastNumber n }
  | _, _ => t

/-- The rows without those of a key. -/
def rowsWithout (t : Table) (key : List Cell) : List Row :=
  if t.keyWidth = 0 then t.rows else t.rows.filter fun row => !keySame (t.keyOf row) key

/-- A table with a row among some of its rows. -/
def place (t : Table) (row : Row) (rows : List Row) : Table :=
  { t.recordNumber row with rows := t.placeRow row rows }

/-- A table with one more row. It fails where a row of its key is there. -/
def insert (t : Table) (values : List Cell) : Except RowFault Table := do
  let row ← t.accept values
  if t.holdsKey (t.keyOf row) then throw (.keyTaken ((t.columns.take t.keyWidth).map (·.name)))
  return t.place row t.rows

/-- A table with one more row, and whether it came in. A row is passed over where one of
its key is there or a value is missing. -/
def add (t : Table) (values : List Cell) : Except RowFault (Table × Bool) :=
  match t.accept values with
  | .error (.missingValue _) => .ok (t, false)
  | .error fault => .error fault
  | .ok row => .ok (if t.holdsKey (t.keyOf row) then (t, false) else (t.place row t.rows, true))

/-- A table with a row in place of any row of its key. Where a value is missing, the
default of its column stands in for it. -/
def put (t : Table) (values : List Cell) : Except RowFault Table := do
  let row ← t.acceptWith Column.fill values
  return t.place row (t.rowsWithout (t.keyOf row))

/-- A row with the cell that another one has at a position, in a table with so many
columns. -/
def merged (width position : Nat) (row other : Row) : Row :=
  (List.range width).map fun i => if i = position then other.getD i .null else row.getD i .null

/-- Rows of which the one that goes by a key is changed. -/
def changeRow (t : Table) (key : List Cell) (change : Row → Row) : List Row → List Row
  | [] => []
  | row :: rows =>
    if keySame (t.keyOf row) key then
      change row :: rows.filter fun other => !keySame (t.keyOf other) key
    else row :: changeRow t key change rows

/-- The position of the column with a name, whatever its case. -/
def column? (t : Table) (name : String) : Option Nat :=
  t.columns.findIdx? fun column => Text.asciiLower column.name == Text.asciiLower name

/-- A table with one more row; or, where a row of its key is there, with that row
changed in a column to what the new one has there. The table has to go by the column
of the key alone. -/
def upsert (t : Table) (key column : String) (values : List Cell) : Except RowFault Table :=
  match t.column? column with
  | none => .error (.unknownColumn column)
  | some position =>
    if t.keyWidth ≠ 1 ∨ t.column? key ≠ some 0 then .error .noKey
    else do
      let row ← t.accept values
      if t.holdsKey (t.keyOf row) then
        let change := fun other => merged t.columns.length position other row
        return { t with rows := t.changeRow (t.keyOf row) change t.rows }
      else return t.place row t.rows

/-- The values of a row given by column, in the order of columns; the default
of a column that is not named. -/
def arrange (t : Table) (given : List (String × Cell)) : Except RowFault (List Cell) :=
  match given.find? fun (name, _) => (t.column? name).isNone with
  | some (name, _) => .error (.unknownColumn name)
  | none =>
    .ok (t.columns.map fun column =>
      match given.find? fun (name, _) => Text.asciiLower name == Text.asciiLower column.name with
      | some (_, value) => value
      | none => column.default)

/-- An empty table without a key whose columns have no affinity. -/
def untyped (names : List String) : Table :=
  { columns := names.map fun name => { name } }

end Table

end StarFreight
