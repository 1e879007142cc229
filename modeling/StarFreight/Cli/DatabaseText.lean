import StarFreight.Json.Field
import StarFreight.Json.Printer
import StarFreight.Json.Reader
import StarFreight.Table.Database
/-!
# Cli — databases as texts

A database as the text of a file: an object of tables, each with its columns
and rows. Real numbers are written by their bits, so that none is changed by
being written and read.
-/

namespace StarFreight

open Decimal

namespace Cell

/-- A cell as a document; a real number is an array of its bits. -/
def toJson : Cell → Json
  | null => .null
  | integer n => .ofInt n
  | real x => .array [.ofNat (x.toBits.toNat / twoTo 32), .ofNat (x.toBits.toNat % twoTo 32)]
  | text s => .string s

/-- A cell read from a document. -/
def ofJson? : Json → Option Cell
  | .null => some null
  | .number n => (n.toInteger?).map integer
  | .string s => some (text s)
  | .array [high, low] => do
    let high ← high.toInteger?
    let low ← low.toInteger?
    return real (Float.ofBits (UInt64.ofNat (high.toNat * twoTo 32 + low.toNat)))
  | _ => none

end Cell

namespace Table

/-- A table as a document: the names of its columns, its rows, and the largest
number it ever gave. -/
def toJson (t : Table) : Json :=
  .object
    [ ("columns", .array (t.columns.map fun column => .string column.name))
    , ("numbered", .ofInt t.lastNumber)
    , ("rows", .array (t.rows.map fun row => .array (row.map Cell.toJson))) ]

/-- A table read from a document: under its usual columns the usual table, and
under others one without a key. -/
def ofJson? (name : TableName) (doc : Json) : Option Table := do
  let [some columns, some numbered, some rows] ← doc.fields? ["columns", "numbered", "rows"] | none
  let columns ← columns.toTexts?
  let lastNumber ← numbered.toInteger?
  let .array rows := rows | none
  let rows ← rows.mapM fun row => match row with
    | .array cells => cells.mapM Cell.ofJson?
    | _ => none
  let usual := name.emptyTable
  let made := if usual.columns.map (·.name) = columns then usual else untyped columns
  return { made with lastNumber, rows }

end Table

namespace Database

/-- A database as the text of a file. -/
def fileText (db : Database) : String :=
  let tables := TableName.all.map fun name => (name.label, (db.table? name).map Table.toJson)
  (Json.ofMembers tables).compact

/-- The database that the text of a file describes; an empty file describes one
without tables. -/
def ofFileText? (text : String) : Option Database :=
  if text.isEmpty then some {}
  else do
    let .object members ← Json.parse? text | none
    members.foldlM
      (fun db (label, doc) => do
        let name ← TableName.ofLabel? label
        let t ← Table.ofJson? name doc
        return db.withTable name (some t))
      {}

end Database

end StarFreight
