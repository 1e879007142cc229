import StarFreight.Json.Basic
/-!
# Json — fields of records

Reading typed values out of documents. A record is an object or an array of
its fields in order (`Json.fields?`); a field that is not given takes a
default, and one that is given has to have the right kind (`Json.fieldOr`).
-/

namespace StarFreight

namespace Json

/-- The values of a record's fields, where they are given: by key in an
object, in which no known key stands twice, or by position in an array. -/
def fields? (names : List String) : Json → Option (List (Option Json))
  | .object members =>
    if names.all fun name => (members.countP (·.1 == name)) ≤ 1 then
      some (names.map fun name => members.lookup name)
    else none
  | .array items =>
    if items.length ≤ names.length then
      some (items.map some ++ List.replicate (names.length - items.length) none)
    else none
  | _ => none

/-- The value of a field: its default when it is not given. -/
def fieldOr {α : Type} (read : Json → Option α) (default : α) : Option Json → Option α
  | none => some default
  | some doc => read doc

/-- A truth value. -/
def toBool? : Json → Option Bool
  | .bool b => some b
  | _ => none

/-- A double. -/
def toFloat? : Json → Option Float
  | .number n => n.toFloat?
  | _ => none

/-- A string. -/
def toText? : Json → Option String
  | .string s => some s
  | _ => none

/-- A list of strings. -/
def toTexts? : Json → Option (List String)
  | .array items => items.mapM toText?
  | _ => none

/-- A 64-bit integer. -/
def toInteger? : Json → Option Int
  | .number n => n.toInteger?
  | _ => none

/-- A natural number that 64 bits hold. -/
def toNatural? : Json → Option Nat
  | .number n => n.toNatural?
  | _ => none

/-- A list of 64-bit integers. -/
def toIntegers? : Json → Option (List Int)
  | .array items => items.mapM toInteger?
  | _ => none

end Json

end StarFreight
