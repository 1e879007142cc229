import StarFreight.Decimal.Binary
import StarFreight.Decimal.Paired
import StarFreight.Decimal.Reading
/-!
# Decimal — numbers in loose text

Tables take text as numbers. `LooseNumber.ofText?` reads a number out of a text
that may have a sign, a point, an exponent and blanks around it, and
`LooseNumber.toFloat` makes it a double.
-/

namespace StarFreight

namespace Decimal

/-- A number read from loose text. -/
structure LooseNumber where
  negative : Bool
  whole : List Digit
  fraction : List Digit
  /-- What follows the exponent mark; 0 when there is none. -/
  exponent : Int
  /-- Whether neither a point nor an exponent was written. -/
  plain : Bool
deriving DecidableEq, Repr

/-- The blanks that may stand around a number in loose text. -/
def isLooseBlank (c : Char) : Bool :=
  c = ' ' || (9 ≤ c.toNat && c.toNat ≤ 13)

/-- The size beyond which an exponent counts as this one; any such number is
infinite or zero. -/
def exponentCap : Nat := 10000

/-- The exponent that the rest of a loose number gives: none without a mark. -/
def looseExponent? : List Char → Option (Option Int)
  | [] => some none
  | c :: cs =>
    if c = 'e' || c = 'E' then
      let (negative, ds) := match cs with
        | '-' :: ds => (true, ds)
        | '+' :: ds => (false, ds)
        | ds => (false, ds)
      if ds.isEmpty then none
      else
        (ds.mapM Digit.ofChar?).map fun ds =>
          let n : Int := min (ofDigits ds) exponentCap
          some (if negative then -n else n)
    else none

namespace LooseNumber

/-- The number that a text holds, if it holds one and nothing else. -/
def ofText? (text : String) : Option LooseNumber := do
  let cs := ((text.toList.dropWhile isLooseBlank).reverse.dropWhile isLooseBlank).reverse
  let (negative, cs) := match cs with
    | '-' :: cs => (true, cs)
    | '+' :: cs => (false, cs)
    | cs => (false, cs)
  let isDigit := fun c : Char => (Digit.ofChar? c).isSome
  let whole := (cs.takeWhile isDigit).filterMap Digit.ofChar?
  let rest := cs.dropWhile isDigit
  let (pointed, fraction, rest) := match rest with
    | '.' :: rest =>
      (true, (rest.takeWhile isDigit).filterMap Digit.ofChar?, rest.dropWhile isDigit)
    | rest => (false, [], rest)
  if whole.isEmpty && fraction.isEmpty then none
  let exponent ← looseExponent? rest
  return {
    negative, whole, fraction, exponent := exponent.getD 0
    plain := !pointed && exponent.isNone }

/-- The 64-bit integer that was written, without a point or an exponent. -/
def toInteger? (n : LooseNumber) : Option Int :=
  let magnitude := ofDigits n.whole
  let value : Int := if n.negative then -(magnitude : Int) else magnitude
  if n.plain && fitsInt64 value then some value else none

/-- The significand from which on no further digit is taken in. -/
def fullSignificand : Nat := 1844674407370955160

/-- The significand that digits build up behind another, and how many of them
are left over. -/
def gather : List Digit → Nat → Nat × Nat
  | [], n => (n, 0)
  | d :: ds, n =>
    if n < fullSignificand then gather ds (10 * n + d.val) else (n, ds.length + 1)

/-- Moves powers of ten from an exponent into the significand while 64 bits hold
it. -/
def absorb : Nat → Nat → Int → Nat × Int
  | 0, n, e => (n, e)
  | tries + 1, n, e =>
    if 0 < e ∧ n < 1844674407370954956 then absorb tries (10 * n) (e - 1) else (n, e)

/-- Moves final zeros of a significand into a negative exponent. -/
def release : Nat → Nat → Int → Nat × Int
  | 0, n, e => (n, e)
  | tries + 1, n, e =>
    if e < 0 ∧ n % 10 = 0 then release tries (n / 10) (e + 1) else (n, e)

/-- The double that a loose number is taken for: 64 bits of its digits, scaled by
a power of ten as a pair of doubles. -/
def toFloat (n : LooseNumber) : Float :=
  let (significand, beyond) := gather n.whole 0
  let (significand, unused) := gather n.fraction significand
  let x :=
    if significand = 0 then 0.0
    else
      let exponent := n.exponent + beyond - (n.fraction.length - unused : Nat)
      let (significand, exponent) := absorb 20 significand exponent
      let (significand, exponent) := release 20 significand exponent
      let x := ((Paired.ofNat significand).scaleTen exponent).toFloat
      if x.isNaN then 1.0 / 0.0 else x
  if n.negative then -x else x

end LooseNumber

/-- The 64-bit integer equal to a double, where there is one. -/
def wholeOfFloat? (x : Float) : Option Int := do
  let b ← Binary.ofFloat? x
  let (num, den) := b.magnitude
  let n : Int := if b.negative then -((num / den : Nat) : Int) else (num / den : Nat)
  if num % den = 0 ∧ fitsInt64 (n - 1) ∧ fitsInt64 (n + 1) then some n else none

end Decimal

end StarFreight
