import StarFreight.Decimal.Power
/-!
# Decimal — the exact value of a double

A finite double is a sign, a whole mantissa and a power of two. `Binary.ofFloat?`
takes it apart, so that what is printed or rounded is decided by whole-number
arithmetic on the exact value (`roundTenths`, and the printers of
`Decimal.Shortest` and `Decimal.Fixed`).
-/

namespace StarFreight

namespace Decimal

/-- The number `± mantissa · 2 ^ exponent`. -/
structure Binary where
  /-- Whether the sign is a minus; zero has a sign too. -/
  negative : Bool
  mantissa : Nat
  /-- The power of two it is scaled by. -/
  exponent : Int
deriving DecidableEq, Repr

namespace Binary

/-- The parts of a finite double; none for an infinity or for what is no
number. -/
def ofFloat? (x : Float) : Option Binary :=
  let bits := x.toBits.toNat
  let negative := decide (twoTo 63 ≤ bits)
  let scale : Nat := bits / twoTo 52 % twoTo 11
  let fraction : Nat := bits % twoTo 52
  if scale = 2047 then none
  else if scale = 0 then some ⟨negative, fraction, -1074⟩
  else some ⟨negative, fraction + twoTo 52, (scale : Int) - 1075⟩

/-- The magnitude as a quotient of whole numbers. -/
def magnitude (b : Binary) : Nat × Nat :=
  if b.exponent < 0 then (b.mantissa, twoTo b.exponent.natAbs)
  else (b.mantissa * twoTo b.exponent.natAbs, 1)

end Binary

/-- How an integer compares with a double, by the exact values. -/
def compareInteger (n : Int) (x : Float) : Ordering :=
  match Binary.ofFloat? x with
  | none => if x < 0 then .gt else .lt
  | some b =>
    let (num, den) := b.magnitude
    compare (n * den) (if b.negative then -(num : Int) else num)

/-- The place of a double among all of them. Zeros are told apart by their signs there,
and what is no number has a place too. -/
def floatPlace (x : Float) : Int :=
  let bits : Int := x.toBits.toNat
  if bits < twoTo 63 then bits else twoTo 63 - 1 - bits

/-- The whole number nearest to a double, a half going away from zero; the
sign is kept, also on zero. -/
def roundHalfAway (x : Float) : Float :=
  match Binary.ofFloat? x with
  | none => x
  | some b =>
    let (num, den) := b.magnitude
    let whole := Float.ofNat ((2 * num + den) / (2 * den))
    if b.negative then -whole else whole

/-- A double rounded to one decimal place, a half of the tenfold value going
away from zero. -/
def roundTenths (x : Float) : Float :=
  roundHalfAway (x * 10) / 10

end Decimal

end StarFreight
