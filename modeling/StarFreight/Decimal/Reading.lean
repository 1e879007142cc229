import StarFreight.Decimal.Digit
/-!
# Decimal — reading integers

Integers are read strictly: an optional sign, at least one digit and nothing
else, within given bounds. `readInteger?` takes either sign and the range of
64-bit integers, `readNatural?` takes no minus sign and values below 2⁶⁴.
-/

namespace StarFreight

namespace Decimal

/-- The digits that a whole sequence of characters stands for. -/
def digitsOfChars? (cs : List Char) : Option (List Digit) :=
  cs.mapM Digit.ofChar?

/-- The number written by a non-empty sequence of digits. -/
def readDigits? (cs : List Char) : Option Nat :=
  if cs.isEmpty then none else (digitsOfChars? cs).map ofDigits

/-- The integer written by an optional sign and at least one digit. -/
def readSigned? : List Char → Option Int
  | '-' :: cs => (readDigits? cs).map fun k : Nat => -(k : Int)
  | '+' :: cs => (readDigits? cs).map fun k : Nat => (k : Int)
  | cs => (readDigits? cs).map fun k : Nat => (k : Int)

/-- Whether an integer fits into 64 bits with a sign. -/
def fitsInt64 (n : Int) : Bool :=
  -9223372036854775808 ≤ n && n ≤ 9223372036854775807

/-- Whether an integer fits into 64 bits without a sign. -/
def fitsNat64 (n : Int) : Bool :=
  0 ≤ n && n ≤ 18446744073709551615

/-- The 64-bit integer that a text writes. -/
def readInteger? (s : String) : Option Int :=
  (readSigned? s.toList).filter fitsInt64

/-- The natural number below 2⁶⁴ that a text writes, with or without a plus
sign. -/
def readNatural? (s : String) : Option Nat :=
  let cs := match s.toList with
    | '+' :: cs => cs
    | cs => cs
  (readDigits? cs).filter (· < twoTo 64)

end Decimal

end StarFreight
