import StarFreight.Decimal.Loose
import StarFreight.Decimal.Significant
import StarFreight.Text.Lowercase
/-!
# Table — cells

A cell of a table holds nothing, an integer, a real number or a text, whatever
its column is meant for. A column's affinity turns a value that comes in into
its own kind where that loses nothing (`Affinity.store`). Cells are ordered:
nothing, then numbers by value, then texts (`Cell.lt`); where a table asks
whether two are equal, nothing is equal to nothing (`Cell.equals`), and a
column's affinity decides as what they are compared (`Affinity.equates`).
-/

namespace StarFreight

open Decimal

/-- A value in a table. -/
inductive Cell where
  | null
  | integer (n : Int)
  | real (x : Float)
  | text (s : String)
deriving DecidableEq, Inhabited

/-- The kind of values a column prefers. -/
inductive Affinity where
  | integer
  | real
  | text
  /-- No kind in particular. -/
  | untyped
deriving DecidableEq, Repr

namespace Cell

/-- The name of a cell's kind. -/
def kind : Cell → String
  | null => "Null"
  | integer _ => "Integer"
  | real _ => "Real"
  | text _ => "Text"

/-- Whether a cell holds nothing. -/
def isNull : Cell → Bool
  | null => true
  | _ => false

/-- Whether one cell comes before another. An integer and a real number are
compared by their exact values. -/
def lt : Cell → Cell → Bool
  | null, null => false
  | null, _ => true
  | _, null => false
  | integer a, integer b => a < b
  | integer a, real y => compareInteger a y == .lt
  | real x, integer b => compareInteger b x == .gt
  | real x, real y => x < y
  | text _, integer _ => false
  | text _, real _ => false
  | integer _, text _ => true
  | real _, text _ => true
  | text a, text b => a < b

/-- Whether two cells hold the same value; numbers are the same when they are
equal, and nothing is the same as nothing. -/
def same (a b : Cell) : Bool :=
  !a.lt b && !b.lt a

/-- Whether two cells hold the same value and neither holds nothing. -/
def equals (a b : Cell) : Bool :=
  !a.isNull && !b.isNull && a.same b

/-- The text of a cell, none when it holds nothing. -/
def text? : Cell → Option String
  | null => none
  | integer n => some (integerText n)
  | real x => some (significantText x)
  | text s => some s

end Cell

namespace Affinity

/-- A real number as an integer where it is one. -/
def wholeIfEqual (x : Float) : Cell :=
  match wholeOfFloat? x with
  | some n => .integer n
  | none => .real x

/-- The number that a text holds, or the text itself. -/
def numberIfText (s : String) : Cell :=
  match LooseNumber.ofText? s with
  | none => .text s
  | some n =>
    match n.toInteger? with
    | some value => .integer value
    | none => wholeIfEqual n.toFloat

/-- The cell that a column of this affinity keeps of a value. A column for real
numbers keeps the whole ones among them as integers and so without a sign on
zero. -/
def store : Affinity → Cell → Cell
  | .integer, .real x => wholeIfEqual x
  | .integer, .text s => numberIfText s
  | .real, .integer n => .real (Float.ofInt n)
  | .real, .real x => .real (x + 0)
  | .real, .text s =>
    match numberIfText s with
    | .integer n => .real (Float.ofInt n)
    | cell => cell
  | .text, .integer n => .text (integerText n)
  | .text, .real x => .text (significantText x)
  | _, cell => cell

/-- What a value is taken for where it is compared in a column of this affinity: a text for
the number that it holds, in a column for numbers, and a number for its text, in a column
for texts. -/
def compared : Affinity → Cell → Cell
  | .integer, .text s => numberIfText s
  | .real, .text s => numberIfText s
  | .text, .integer n => .text (integerText n)
  | .text, .real x => .text (significantText x)
  | _, value => value

/-- Whether a cell of a column of this affinity is equal to a value, as it is or as the
column takes it. -/
def equates (affinity : Affinity) (cell value : Cell) : Bool :=
  cell.equals value || cell.equals (affinity.compared value)

end Affinity

end StarFreight
