import StarFreight.Store.Error
/-!
# Store — queries

Reading and writing single tables. A query names the columns it wants and the
conditions that rows have to meet; its answer is a list of records, whose
fields are read by position and kind. A query fails before it yields anything
when its table or one of its columns does not exist; a field fails when its
cell holds another kind of value.
-/

namespace StarFreight

/-- A row of an answer: its cells under the names of their columns. -/
abbrev Record := List (String × Cell)

namespace Record

/-- The error of a field that holds another kind of value than is asked for. -/
def kindError (record : Record) (position : Nat) : StoreError :=
  match record[position]? with
  | some (column, cell) => .cellKind cell.kind position column
  | none => .cellKind Cell.null.kind position ""

/-- The cell of a field. -/
def cell (record : Record) (position : Nat) : Cell :=
  (record[position]?.map (·.2)).getD .null

/-- The integer in a field. -/
def integer (record : Record) (position : Nat) : Except StoreError Int :=
  match record.cell position with
  | .integer n => .ok n
  | _ => .error (record.kindError position)

/-- The text in a field. -/
def text (record : Record) (position : Nat) : Except StoreError String :=
  match record.cell position with
  | .text s => .ok s
  | _ => .error (record.kindError position)

/-- The real number in a field; an integer is one too. -/
def real (record : Record) (position : Nat) : Except StoreError Float :=
  match record.cell position with
  | .real x => .ok x
  | .integer n => .ok (Float.ofInt n)
  | _ => .error (record.kindError position)

/-- The truth value in a field: an integer other than zero. -/
def truth (record : Record) (position : Nat) : Except StoreError Bool :=
  match record.cell position with
  | .integer n => .ok (n != 0)
  | _ => .error (record.kindError position)

/-- A field that may hold nothing. -/
def optional {α : Type} (read : Record → Nat → Except StoreError α) (record : Record)
    (position : Nat) : Except StoreError (Option α) :=
  if (record.cell position).isNull then .ok none else (read record position).map some

end Record

/-- A condition on the cell that a row has in a column. -/
structure Condition where
  column : String
  /-- What its cell has to satisfy, by the affinity of the column. -/
  holds : Affinity → Cell → Bool

namespace Condition

/-- The cell is equal to an integer. -/
def isInteger (column : String) (n : Int) : Condition :=
  { column, holds := fun affinity cell => affinity.equates cell (.integer n) }

/-- The cell is equal to a text. -/
def isText (column : String) (s : String) : Condition :=
  { column, holds := fun affinity cell => affinity.equates cell (.text s) }

/-- The cell's text is the given one but for the case of Latin letters. -/
def isTextAnyCase (column : String) (s : String) : Condition :=
  { column
    holds := fun _ cell => match cell.text? with
      | some t => Text.asciiLower t == Text.asciiLower s
      | none => false }

end Condition

/-- What is asked of a table. -/
structure Query where
  source : TableName
  columns : List String
  conditions : List Condition := []
  /-- The columns by which the answer is sorted; none to leave it in the order of
  the table. -/
  order : List String := []

namespace Table

/-- The position of a column that is asked for. -/
def require (t : Table) (name : String) : Except StoreError Nat :=
  match t.column? name with
  | some position => .ok position
  | none => .error (.noSuchColumn name)

/-- The affinity of the column at a position. -/
def affinityAt (t : Table) (position : Nat) : Affinity :=
  (t.columns[position]?.map (·.affinity)).getD .untyped

/-- The cell of a row at a position. -/
def cellAt (row : Row) (position : Nat) : Cell :=
  row.getD position .null

/-- The field of a row at the position of a column. -/
def fieldAt (t : Table) (row : Row) (position : Nat) : String × Cell :=
  ((t.columns[position]?.map (·.name)).getD "", cellAt row position)

/-- Rows sorted by their cells at some positions; rows that agree there keep
their order. -/
def sortRows (positions : List Nat) (rows : List Row) : List Row :=
  rows.mergeSort fun a b => !keyLt (positions.map (cellAt b)) (positions.map (cellAt a))

/-- The answer of a table to a query. -/
def answer (t : Table) (query : Query) : Except StoreError (List Record) := do
  let wanted ← query.columns.mapM t.require
  let tests ← query.conditions.mapM fun condition => do
    let position ← t.require condition.column
    return (position, condition.holds (t.affinityAt position))
  let order ← query.order.mapM t.require
  let met := t.rows.filter fun row => tests.all fun (position, holds) => holds (cellAt row position)
  return (sortRows order met).map fun row => wanted.map (t.fieldAt row)

/-- A table without the rows that have given values in some columns, and how many
those were. -/
def erase (t : Table) (values : List (String × Cell)) : Except StoreError (Table × Nat) := do
  let tests ← values.mapM fun (name, value) => do
    return (← t.require name, value)
  let kept := t.rows.filter fun row =>
    !tests.all fun (position, value) => (t.affinityAt position).equates (cellAt row position) value
  return ({ t with rows := kept }, t.rows.length - kept.length)

end Table

namespace Database

/-- A table that has to exist. -/
def require (db : Database) (name : TableName) : Except StoreError Table :=
  match db.table? name with
  | some t => .ok t
  | none => .error (.noSuchTable name.label)

/-- The answer to a query. -/
def select (db : Database) (query : Query) : Except StoreError (List Record) := do
  let t ← db.require query.source
  t.answer query

/-- The cells of which none that holds the same comes later. -/
def lastOfEach : List Cell → List Cell
  | [] => []
  | a :: cells => if cells.any a.same then lastOfEach cells else a :: lastOfEach cells

/-- The answers to two queries for a column each, read as one: the second
query is looked at first when a table or a column is missing, of equal answers
the last one counts, and answers come in order under the name of the first
column. -/
def selectUnion (db : Database) (first second : Query) : Except StoreError (List Record) := do
  let tail ← db.require second.source
  let head ← db.require first.source
  let b ← tail.answer second
  let a ← head.answer first
  let position ← head.require (first.columns.headD "")
  let column := (head.fieldAt [] position).1
  let cells := lastOfEach ((a ++ b).map fun record => Record.cell record 0)
  return (cells.mergeSort fun a b => !b.lt a).map fun cell => [(column, cell)]

/-- The database with a row put into a table, in place of one of its key. -/
def put (db : Database) (name : TableName) (values : List Cell) : Except StoreError Database := do
  let t ← db.require name
  match t.put values with
  | .ok t => return db.withTable name (some t)
  | .error fault => throw (.row name.label fault)

/-- The database with a row given by columns added to a table, and whether it came
in. -/
def add (db : Database) (name : TableName) (values : List (String × Cell)) :
    Except StoreError (Database × Bool) := do
  let t ← db.require name
  match t.arrange values >>= t.add with
  | .ok (t, added) => return (db.withTable name (some t), added)
  | .error fault => throw (.row name.label fault)

/-- The database with a row given by columns inserted into a table. -/
def insert (db : Database) (name : TableName) (values : List (String × Cell)) :
    Except StoreError Database := do
  let t ← db.require name
  match t.arrange values >>= t.insert with
  | .ok t => return db.withTable name (some t)
  | .error fault => throw (.row name.label fault)

/-- The database with a row given by columns in a table; where one of its key is there,
that row is changed in a column. -/
def upsert (db : Database) (name : TableName) (key column : String)
    (values : List (String × Cell)) : Except StoreError Database := do
  let t ← db.require name
  match t.arrange values >>= t.upsert key column with
  | .ok t => return db.withTable name (some t)
  | .error fault => throw (.row name.label fault)

/-- The database without the rows of a key in a table, and how many those
were. -/
def erase (db : Database) (name : TableName) (key : List Cell) :
    Except StoreError (Database × Nat) := do
  let t ← db.require name
  let (t, count) ← t.erase (name.keyColumns.zip key)
  return (db.withTable name (some t), count)

/-- The rows of a table in the order of its key. -/
def listing (db : Database) (name : TableName) : Except StoreError (List Row) := do
  let t ← db.require name
  let records ← t.answer
    { source := name, columns := t.columns.map (·.name), order := name.keyColumns }
  return records.map fun record => record.map (·.2)

end Database

end StarFreight
