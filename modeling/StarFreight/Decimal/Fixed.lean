import StarFreight.Decimal.Binary
import StarFreight.Decimal.Digit
/-!
# Decimal — fixed places

A double written with a fixed number of places. The exact value is rounded,
and a value half-way between two neighbours goes to the even one
(`divRound_even`).
-/

namespace StarFreight

namespace Decimal

/-- The quotient of two whole numbers rounded to the nearest one, a half to
the even neighbour. -/
def divRound (num den : Nat) : Nat :=
  let below := num / den
  let rest := 2 * (num % den)
  if rest < den then below
  else if den < rest then below + 1
  else if below % 2 = 0 then below else below + 1

/-- A half goes to the even neighbour. -/
theorem divRound_even : divRound 5 2 = 2 ∧ divRound 7 2 = 4 := by
  decide

/-- The text of a double with the given number of places, at least one. -/
def fixedText (places : Nat) (x : Float) : String :=
  match Binary.ofFloat? x with
  | none => if x.isNaN then "NaN" else if x < 0 then "-inf" else "inf"
  | some b =>
    let (num, den) := b.magnitude
    let n := divRound (num * tenTo places) den
    let fraction := digits (tenTo places + n % tenTo places)
    let text := digitChars (digits (n / tenTo places)) ++ '.' :: digitChars (fraction.drop 1)
    String.ofList (if b.negative then '-' :: text else text)

end Decimal

end StarFreight
