import StarFreight.Json.Basic
/-!
# Json — canonical documents

Two documents that mean the same can be spelled differently. `Json.canonical`
picks one spelling: the members of every object ascending by key, the last of
those that share one, and every number plain or as its shortest decimal.
-/

namespace StarFreight

open Decimal

/-- A number plainly when it is an integer that 64 bits hold, with a sign or
without, and otherwise as the shortest decimal of the double it writes. -/
def Numeral.canonical (n : Numeral) : Numeral :=
  match n.toPlain?.filter fun i => fitsInt64 i || fitsNat64 i with
  | some i => ofInt i
  | none =>
    match n.toFloat? >>= shortest? with
    | some s => ofScaled s
    | none => n

namespace Json

/-- Puts a member in its place among members ascending by key, unless there is
one of its key. -/
def placeMember (member : String × Json) : List (String × Json) → List (String × Json)
  | [] => [member]
  | m :: members =>
    if member.1 < m.1 then member :: m :: members
    else if member.1 = m.1 then m :: members
    else m :: placeMember member members

mutual

/-- A document in its canonical spelling. -/
def canonical : Json → Json
  | .number n => .number n.canonical
  | .array items => .array (canonicalItems items)
  | .object members => .object (canonicalMembers members)
  | doc => doc

/-- The items of an array in their canonical spelling. -/
def canonicalItems : List Json → List Json
  | [] => []
  | item :: items => canonical item :: canonicalItems items

/-- The members of an object in their canonical spelling and order. -/
def canonicalMembers : List (String × Json) → List (String × Json)
  | [] => []
  | (key, value) :: members => placeMember (key, canonical value) (canonicalMembers members)

end

end Json

end StarFreight
