/-!
# Text — hexadecimal digits

The sixteen digits as they are written, in small letters, and as they are read, in
letters of either size. What is written is read back (`hexValue?_hexDigit`).
-/

namespace StarFreight

namespace Text

/-- The digit of a number below sixteen, in lower case. -/
def hexDigit (n : Nat) : Char :=
  if n < 10 then Char.ofNat (48 + n) else Char.ofNat (87 + n)

/-- The value of a hexadecimal digit. -/
def hexValue? (c : Char) : Option Nat :=
  let n := c.toNat
  if 48 ≤ n ∧ n < 58 then some (n - 48)
  else if 97 ≤ n ∧ n < 103 then some (n - 87)
  else if 65 ≤ n ∧ n < 71 then some (n - 55)
  else none

/-- **A digit has the value that it is written for.** -/
theorem hexValue?_hexDigit {n : Nat} (h : n < 16) : hexValue? (hexDigit n) = some n := by
  have hall : ∀ m < 16, hexValue? (hexDigit m) = some m := by decide
  exact hall n h

/-- A capital digit has the same value. -/
theorem hexValue?_toUpper_hexDigit {n : Nat} (h : n < 16) :
    hexValue? (hexDigit n).toUpper = some n := by
  have hall : ∀ m < 16, hexValue? (hexDigit m).toUpper = some m := by decide
  exact hall n h

/-- The number that hexadecimal digits of a base up to sixteen write. -/
def readBase? (base : Nat) (cs : List Char) : Option Nat :=
  cs.foldlM
    (fun n c => do
      let d ← hexValue? c
      if d < base then some (base * n + d) else none)
    0

end Text

end StarFreight
