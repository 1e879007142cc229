import StarFreight.Decimal.Digit
/-!
# Decimal — pairs of doubles

A number kept as the sum of two doubles, the second far smaller than the first,
so that it has about twice the digits of one. `Paired.mul` multiplies two such
sums; `Paired.scaleTen` multiplies one by a power of ten, in hundreds, tens and
ones of the exponent. The last digit of a result is not certain: what is
computed is this sequence of operations, not the nearest double.
-/

namespace StarFreight

namespace Decimal

/-- The number `high + low`. -/
structure Paired where
  high : Float
  /-- What the leading part lacks. -/
  low : Float

/-- The leading half of a double's digits: its last 26 bits cleared. -/
def leadingHalf (x : Float) : Float :=
  Float.ofBits (x.toBits &&& 0xfffffffffc000000)

namespace Paired

/-- A natural number: the double nearest to it, and what that one lacks. A
number that rounds to 2⁶⁴ is taken as that. -/
def ofNat (n : Nat) : Paired :=
  let high := Float.ofNat n
  let low := if high ≤ 18446744073709549568.0 then Float.ofInt (n - high.toUInt64.toNat) else 0
  { high, low }

/-- The sum of the two parts. -/
def toFloat (x : Paired) : Float :=
  x.high + x.low

/-- The product. The leading parts are multiplied in halves, so that nothing of
their product is lost. -/
def mul (x y : Paired) : Paired :=
  let xh := leadingHalf x.high
  let xl := x.high - xh
  let yh := leadingHalf y.high
  let yl := y.high - yh
  let outer := xh * yh
  let inner := xh * yl + xl * yh
  let product := outer + inner
  let lacking := outer - product + inner + xl * yl
  let lacking := x.high * y.low + x.low * y.high + lacking
  let high := product + lacking
  { high, low := product - high + lacking }

/-- A number multiplied by another a number of times. -/
def mulTimes (x y : Paired) : Nat → Paired
  | 0 => x
  | times + 1 => mulTimes (x.mul y) y times

/-- The powers of ten by which numbers grow: to the 100, to the 10 and to
the 1. -/
def growing : Paired × Paired × Paired :=
  (⟨1.0e+100, -1.5902891109759918046e+83⟩, ⟨1.0e+10, 0⟩, ⟨1.0e+01, 0⟩)

/-- The powers of ten by which numbers shrink: to the -100, to the -10 and to
the -1. -/
def shrinking : Paired × Paired × Paired :=
  (⟨1.0e-100, -1.99918998026028836196e-117⟩, ⟨1.0e-10, -3.6432197315497741579e-27⟩,
    ⟨1.0e-01, -5.5511151231257827021e-18⟩)

/-- A number multiplied by a power of ten. -/
def scaleTen (x : Paired) (exponent : Int) : Paired :=
  let (hundreds, tens, ones) := if 0 < exponent then growing else shrinking
  let e := exponent.natAbs
  ((x.mulTimes hundreds (e / 100)).mulTimes tens (e % 100 / 10)).mulTimes ones (e % 10)

end Paired

end Decimal

end StarFreight
