import StarFreight.Decimal.Binary
import StarFreight.Decimal.Digit
/-!
# Decimal — shortest text of a double

The decimal with the fewest digits that is read back as the given double, and
among those the one nearest to it. On each grid of decimals, coarse to fine,
the two neighbours of the exact value are tried; the first grid that has a
point nearer to this double than to any other gives the digits.
-/

namespace StarFreight

namespace Decimal

/-- The decimal `± coefficient · 10 ^ exponent`. -/
structure Scaled where
  negative : Bool
  coefficient : Nat
  /-- The power of ten it is scaled by. -/
  exponent : Int
deriving DecidableEq, Repr

/-- The reals that are read as one double: between `low` and `high` over
`scale`, ends included when `closed`, around the exact value `centre`. -/
structure Interval where
  low : Nat
  centre : Nat
  high : Nat
  scale : Nat
  /-- Whether the ends belong to it. -/
  closed : Bool

namespace Interval

/-- The reals nearer to a positive double than to its neighbours. Below a
power of two the gap is half as wide as above it. -/
def ofBinary (b : Binary) : Interval :=
  let narrow := b.mantissa = twoTo 52 ∧ -1074 < b.exponent
  let low := 4 * b.mantissa - if narrow then 1 else 2
  let up := if b.exponent < 2 then 1 else twoTo (b.exponent - 2).natAbs
  let down := if b.exponent < 2 then twoTo (b.exponent - 2).natAbs else 1
  { low := low * up, centre := 4 * b.mantissa * up, high := (4 * b.mantissa + 2) * up
    scale := down, closed := b.mantissa % 2 = 0 }

/-- The interval measured in units of `10 ^ exponent`. -/
def inUnits (i : Interval) (exponent : Int) : Interval :=
  if exponent < 0 then
    let factor := tenTo exponent.natAbs
    { i with low := i.low * factor, centre := i.centre * factor, high := i.high * factor }
  else { i with scale := i.scale * tenTo exponent.natAbs }

/-- Whether a whole number of units lies in the interval. -/
def holds (i : Interval) (n : Nat) : Bool :=
  let spot := n * i.scale
  if i.closed then i.low ≤ spot && spot ≤ i.high else i.low < spot && spot < i.high

/-- The whole number of units in the interval nearest to the exact value, an
even one where two are equally near. -/
def nearest? (i : Interval) : Option Nat :=
  let below := i.centre / i.scale
  let rest := 2 * (i.centre % i.scale)
  match i.holds below, i.holds (below + 1) with
  | false, false => none
  | true, false => some below
  | false, true => some (below + 1)
  | true, true =>
    if rest < i.scale then some below
    else if i.scale < rest then some (below + 1)
    else some (if below % 2 = 0 then below else below + 1)

end Interval

/-- How many digits stand before the point of `num / den`; zero or negative
for a value below 1 whose first digits after the point are zeros. -/
def pointPosition (num den : Nat) : Int :=
  if den ≤ num then ((digits (num / den)).length : Int)
  else 1 - ((digits ((den - 1) / num)).length : Int)

/-- The first grid from `count` digits on that has a point in the interval. -/
def firstGrid (i : Interval) (point : Int) : Nat → Nat → Option (Nat × Int)
  | 0, _ => none
  | tries + 1, count =>
    let exponent := point - count
    match (i.inUnits exponent).nearest? with
    | some n => some (n, exponent)
    | none => firstGrid i point tries (count + 1)

/-- Moves trailing zeros of a coefficient into the exponent. -/
def dropZeros : Nat → Nat → Int → Nat × Int
  | 0, n, e => (n, e)
  | tries + 1, n, e => if n ≠ 0 ∧ n % 10 = 0 then dropZeros tries (n / 10) (e + 1) else (n, e)

/-- The shortest decimal that is read back as the given double; none for an
infinity or for what is no number. -/
def shortest? (x : Float) : Option Scaled := do
  let b ← Binary.ofFloat? x
  if b.mantissa = 0 then return ⟨b.negative, 0, 0⟩
  let (num, den) := b.magnitude
  let (n, e) ← firstGrid (Interval.ofBinary b) (pointPosition num den) 18 1
  let (n, e) := dropZeros 20 n e
  return ⟨b.negative, n, e⟩

end Decimal

end StarFreight
