import StarFreight.Decimal.Digit
import StarFreight.Decimal.Paired
/-!
# Decimal — significant digits

A double written with up to fifteen digits (`significantText`). The digits are
those of a whole number of eighteen or nineteen places, to which the double is
brought by powers of ten as a pair of doubles (`Paired.settle`); for most doubles
they are the digits of the exact value, and for those without a full mantissa
some of the last are not.
-/

namespace StarFreight

namespace Decimal

namespace Paired

/-- A number multiplied by another while its leading part calls for it, at most
a number of times, and how often it was. -/
def mulWhile (more : Float → Bool) (y : Paired) : Nat → Paired → Paired × Nat
  | 0, x => (x, 0)
  | tries + 1, x =>
    if more x.high then
      let (x, times) := mulWhile more y tries (x.mul y)
      (x, times + 1)
    else (x, 0)

/-- A positive double brought between 10¹⁷ and 10¹⁹ by powers of ten, and the
power of ten that undoes this. -/
def settle (r : Float) : Paired × Int :=
  if 9.223372036854774784e+18 < r then
    let (hundreds, tens, ones) := shrinking
    let (x, h) := mulWhile (9.223372036854774784e+118 < ·) hundreds 4 ⟨r, 0⟩
    let (x, t) := mulWhile (9.223372036854774784e+28 < ·) tens 12 x
    let (x, n) := mulWhile (9.223372036854774784e+18 < ·) ones 12 x
    (x, (100 * h + 10 * t + n : Nat))
  else
    let (hundreds, tens, ones) := growing
    let (x, h) := mulWhile (· < 9.223372036854774784e-83) hundreds 4 ⟨r, 0⟩
    let (x, t) := mulWhile (· < 9.223372036854774784e+07) tens 12 x
    let (x, n) := mulWhile (· < 9.22337203685477478e+17) ones 12 x
    (x, -((100 * h + 10 * t + n : Nat) : Int))

/-- The whole number in both parts of a number below 2⁶⁴. -/
def truncate (x : Paired) : Nat :=
  let whole := x.high.toUInt64
  (if x.low < 0 then whole - (-x.low).toUInt64 else whole + x.low.toUInt64).toNat

end Paired

/-- The first digits of a positive double, a digit of five and more behind them
counting up, and the power of ten of the first. -/
def leadingDigits (count : Nat) (r : Float) : List Digit × Int :=
  let (x, exponent) := Paired.settle r
  let ds := digits x.truncate
  let power := exponent + ds.length - 1
  let up : Bool := match ds.drop count with
    | d :: _ => 5 ≤ d.val
    | [] => false
  if up then
    let n := ofDigits (ds.take count) + 1
    (digits n, if n = tenTo count then power + 1 else power)
  else (ds.take count, power)

/-- The digits without the zeros at their end. -/
def withoutFinalZeros (ds : List Digit) : List Digit :=
  (ds.reverse.dropWhile (·.val = 0)).reverse

/-- The characters of a sequence of digits, a zero when there are none. -/
def atLeastZero (ds : List Digit) : List Char :=
  if ds.isEmpty then ['0'] else digitChars ds

/-- A double with up to fifteen significant digits and at least one on either
side of the point; with an exponent below 10⁻⁴ and from 10¹⁵ on. -/
def significantText (x : Float) : String :=
  if x.isNaN then "NaN"
  else if x.isInf then if x < 0 then "-Inf" else "Inf"
  else
    let sign := if x < 0 then ['-'] else []
    let body :=
      if x == 0 then ['0', '.', '0']
      else
        let (ds, power) := leadingDigits 15 x.abs
        let ds := withoutFinalZeros ds
        if power < -4 ∨ 15 ≤ power then
          let e := digitChars (digits power.natAbs)
          let e := if e.length < 2 then '0' :: e else e
          digitChars (ds.take 1) ++ '.' :: atLeastZero (ds.drop 1)
            ++ ['e', if power < 0 then '-' else '+'] ++ e
        else if power < 0 then
          ['0', '.'] ++ List.replicate (power.natAbs - 1) '0' ++ digitChars ds
        else
          let front := power.toNat + 1
          let padded := ds ++ List.replicate (front - ds.length) .zero
          digitChars (padded.take front) ++ '.' :: atLeastZero (padded.drop front)
    String.ofList (sign ++ body)

end Decimal

end StarFreight
