import StarFreight.Decimal.Power
/-!
# Decimal — digits

A digit is a number below ten. `digits` writes a natural number in digits,
`ofDigits` reads one back, and `Digit.ofChar?` and `Digit.toChar` pass between
digits and the characters that stand for them.
-/

namespace StarFreight

namespace Decimal

/-- A decimal digit. -/
abbrev Digit := Fin 10

namespace Digit

/-- The digit 0. -/
def zero : Digit := ⟨0, by decide⟩

/-- The character that stands for a digit. -/
def toChar (d : Digit) : Char :=
  Char.ofNat (48 + d.val)

/-- The digit that a character stands for. -/
def ofChar? (c : Char) : Option Digit :=
  if h : 48 ≤ c.toNat ∧ c.toNat < 58 then some ⟨c.toNat - 48, by omega⟩ else none

/-- Every digit is read back from its character. -/
theorem ofChar?_toChar (d : Digit) : ofChar? (toChar d) = some d := by
  revert d; decide

end Digit

/-- The digits of `n`, most significant first, in front of `acc`; none for 0. -/
def digitsOnto (acc : List Digit) (n : Nat) : List Digit :=
  if h : n = 0 then acc
  else digitsOnto (⟨n % 10, Nat.mod_lt _ (by decide)⟩ :: acc) (n / 10)
termination_by n
decreasing_by exact Nat.div_lt_self (Nat.pos_of_ne_zero h) (by decide)

/-- The digits of a natural number, most significant first; 0 has the one
digit 0. -/
def digits (n : Nat) : List Digit :=
  if n = 0 then [.zero] else digitsOnto [] n

/-- The natural number with the given digits. -/
def ofDigits (ds : List Digit) : Nat :=
  ds.foldl (fun n d => 10 * n + d.val) 0

/-- The first digit counts for one place more than digits follow. -/
theorem ofDigits_cons (d : Digit) (ds : List Digit) :
    ofDigits (d :: ds) = d.val * tenTo ds.length + ofDigits ds := by
  have hfold : ∀ (ds : List Digit) (n : Nat),
      ds.foldl (fun n d => 10 * n + d.val) n = n * tenTo ds.length + ofDigits ds := by
    intro ds
    induction ds with
    | nil => intro n; simp [ofDigits]
    | cons e ds ih =>
      intro n
      have h := ih e.val
      simp only [ofDigits, List.foldl_cons, List.length_cons, Nat.mul_zero, Nat.zero_add] at *
      rw [ih, h, tenTo_succ, Nat.add_mul, Nat.add_assoc]
      congr 1
      rw [Nat.mul_comm 10 n, Nat.mul_assoc, Nat.mul_comm 10]
  have h := hfold ds d.val
  simpa [ofDigits] using h

/-- Digits in front of others count for as many places more. -/
theorem ofDigits_digitsOnto (acc : List Digit) (n : Nat) :
    ofDigits (digitsOnto acc n) = ofDigits acc + n * tenTo acc.length := by
  induction n using Nat.strongRecOn generalizing acc with
  | ind n ih =>
    rw [digitsOnto]
    split
    · next h => simp [h]
    · next h =>
      rw [ih (n / 10) (Nat.div_lt_self (Nat.pos_of_ne_zero h) (by decide)), ofDigits_cons]
      simp only [List.length_cons, tenTo_succ]
      have hn := Nat.div_add_mod n 10
      calc n % 10 * tenTo acc.length + ofDigits acc + n / 10 * (tenTo acc.length * 10)
          = ofDigits acc + (10 * (n / 10) + n % 10) * tenTo acc.length := by
            rw [Nat.add_mul, Nat.mul_comm (tenTo acc.length) 10, ← Nat.mul_assoc,
              Nat.mul_comm (n / 10) 10]
            omega
        _ = ofDigits acc + n * tenTo acc.length := by rw [hn]

/-- **Digits are read back** as the number that was written. -/
theorem ofDigits_digits (n : Nat) : ofDigits (digits n) = n := by
  unfold digits
  split
  · next h => simp [h, ofDigits, Digit.zero]
  · rw [ofDigits_digitsOnto]; simp [ofDigits]

/-- The text of a sequence of digits. -/
def digitChars (ds : List Digit) : List Char :=
  ds.map Digit.toChar

/-- The characters of an integer: a minus sign when it is negative, then its
digits. -/
def integerChars (n : Int) : List Char :=
  if n < 0 then '-' :: digitChars (digits n.natAbs) else digitChars (digits n.natAbs)

/-- The text of an integer. -/
def integerText (n : Int) : String :=
  String.ofList (integerChars n)

end Decimal

end StarFreight
