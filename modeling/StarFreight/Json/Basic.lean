import StarFreight.Decimal.Reading
import StarFreight.Decimal.Shortest
/-!
# Json — documents

A document is one of the six kinds of JSON value. Numbers are kept as they
are written (`Numeral`), so that reading a document and giving its numbers a
meaning are separate: `Numeral.toInteger?` for 64-bit integers and
`Numeral.toFloat?` for doubles. A string literal whose surrogate escapes do
not pair up denotes no text; it and an object with such a key are kept as
`unpaired`.
-/

namespace StarFreight

open Decimal

/-- A number as it is written. -/
structure Numeral where
  /-- Whether a minus sign stands in front. -/
  negative : Bool := false
  /-- The digits before the point. -/
  whole : List Digit
  /-- The digits after the point; empty when there is no point. -/
  fraction : List Digit := []
  /-- What follows the exponent mark, if there is one. -/
  exponent : Option Int := none
deriving DecidableEq, Repr

/-- A JSON value. -/
inductive Json where
  | null
  | bool (b : Bool)
  | number (n : Numeral)
  | string (s : String)
  /-- A string literal with a surrogate escape that has no partner, or an object
  with such a key. -/
  | unpaired
  | array (items : List Json)
  /-- An object, its members in the order written. -/
  | object (members : List (String × Json))
deriving Inhabited, Repr

namespace Numeral

/-- An integer, written plainly. -/
def ofInt (n : Int) : Numeral :=
  { negative := n < 0, whole := digits n.natAbs }

/-- A shortest decimal as documents write it: positional for values from
10⁻⁵ up to below 10¹⁶, with a point in any case, and with an exponent outside. -/
def ofScaled (s : Scaled) : Numeral :=
  let ds := digits s.coefficient
  let point : Int := ds.length + s.exponent
  if 0 ≤ s.exponent ∧ point ≤ 16 then
    { negative := s.negative, whole := ds ++ List.replicate s.exponent.toNat .zero
      fraction := [.zero] }
  else if 0 < point ∧ point ≤ 16 then
    { negative := s.negative, whole := ds.take point.toNat, fraction := ds.drop point.toNat }
  else if -5 < point ∧ point ≤ 0 then
    { negative := s.negative, whole := [.zero]
      fraction := List.replicate point.natAbs .zero ++ ds }
  else
    { negative := s.negative, whole := ds.take 1, fraction := ds.drop 1
      exponent := some (point - 1) }

/-- The integer that a numeral writes: no point, no exponent, and no minus sign
on zero. -/
def toPlain? (n : Numeral) : Option Int :=
  if n.fraction.isEmpty && n.exponent.isNone then
    let magnitude := ofDigits n.whole
    if n.negative && magnitude == 0 then none
    else some (if n.negative then -(magnitude : Int) else magnitude)
  else none

/-- The integer that a numeral writes, if 64 bits with a sign hold it. -/
def toInteger? (n : Numeral) : Option Int :=
  n.toPlain?.filter fitsInt64

/-- The natural number that a numeral writes, if 64 bits hold it. -/
def toNatural? (n : Numeral) : Option Nat :=
  (n.toPlain?.filter fitsNat64).map Int.toNat

/-- The significand that digits before the point build up, and how many of
them no longer fit into 64 bits. -/
def gatherWhole : List Digit → Nat → Nat × Nat
  | [], n => (n, 0)
  | d :: ds, n =>
    if 10 * n + d.val < twoTo 64 then gatherWhole ds (10 * n + d.val) else (n, ds.length + 1)

/-- The significand extended by the digits after the point that still fit into
64 bits, and how many those are. -/
def gatherFraction : List Digit → Nat → Nat × Nat
  | [], n => (n, 0)
  | d :: ds, n =>
    if 10 * n + d.val < twoTo 64 then
      let (m, taken) := gatherFraction ds (10 * n + d.val)
      (m, taken + 1)
    else (n, 0)

/-- The power of ten nearest to `10 ^ e`. -/
def powerOfTen (e : Nat) : Float :=
  Float.ofScientific 1 false e

/-- `x · 10 ^ exponent` by one division or multiplication with a power of ten
up to 10³⁰⁸, after divisions by 10³⁰⁸ where the exponent lies below that; none
when it exceeds the doubles. -/
def scale? : Nat → Float → Int → Option Float
  | 0, _, _ => some 0
  | tries + 1, x, exponent =>
    if exponent.natAbs ≤ 308 then
      if 0 ≤ exponent then
        let y := x * powerOfTen exponent.natAbs
        if y.isInf then none else some y
      else some (x / powerOfTen exponent.natAbs)
    else if x == 0 then some x
    else if 0 ≤ exponent then none
    else scale? tries (x / powerOfTen 308) (exponent + 308)

/-- The double that a numeral writes: up to 64 bits of its digits, scaled by
the power of ten that its point and exponent give; none when it exceeds the
doubles. -/
def toFloat? (n : Numeral) : Option Float :=
  let (whole, beyond) := gatherWhole n.whole 0
  let (significand, places) := gatherFraction n.fraction whole
  let exponent := (beyond : Int) - places + n.exponent.getD 0
  (scale? 5 (Float.ofNat significand) exponent).map fun x => if n.negative then -x else x

end Numeral

namespace Json

/-- An integer as a document. -/
def ofInt (n : Int) : Json :=
  .number (Numeral.ofInt n)

/-- A count as a document. -/
def ofNat (n : Nat) : Json :=
  .number (Numeral.ofInt n)

/-- A double as a document: its shortest decimal, or `null` for one that no
decimal writes. -/
def ofFloat (x : Float) : Json :=
  match shortest? x with
  | some s => .number (Numeral.ofScaled s)
  | none => .null

/-- An object of the members that are given. -/
def ofMembers (members : List (String × Option Json)) : Json :=
  .object (members.filterMap fun (key, value) => value.map (key, ·))

end Json

end StarFreight
