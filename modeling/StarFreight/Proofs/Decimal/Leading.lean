import Mathlib.Tactic.SplitIfs
import StarFreight.Decimal.Shortest
import StarFreight.Proofs.Decimal.IntegerText
/-!
# Decimal — no zero in front

The digits of a number other than zero do not start with zero (`head?_digits_ne_zero`).
The shortest decimal of a double is such a number with a power of ten, or zero without
one (`exponent_eq_zero_of_shortest?`): zero is never in the interval around another
double, so no grid yields it.
-/

namespace StarFreight

namespace Decimal

variable {n m : Nat} {e f point : Int} {i : Interval} {b : Binary} {x : Float} {s : Scaled}

/-! ## Digits -/

/-- The first digit to be written is the last to be left, and is not zero. -/
theorem exists_digitsOnto_eq (h : n ≠ 0) (acc : List Digit) :
    ∃ d ds, digitsOnto acc n = d :: ds ∧ d ≠ .zero := by
  induction n using Nat.strongRecOn generalizing acc with
  | ind n ih =>
    rw [digitsOnto, dif_neg h]
    by_cases hrest : n / 10 = 0
    · rw [hrest, digitsOnto, dif_pos rfl]
      refine ⟨_, acc, rfl, fun hd => ?_⟩
      have hmod : n % 10 = 0 := congrArg Fin.val hd
      omega
    · exact ih (n / 10) (by omega) hrest _

/-- **The digits of a number do not start with zero**, unless it is zero. -/
theorem head?_digits_ne_zero (h : n ≠ 0) : (digits n).head? ≠ some .zero := by
  obtain ⟨d, ds, hdigits, hd⟩ := exists_digitsOnto_eq h []
  rw [digits, if_neg h, hdigits]
  exact fun hzero => hd (Option.some.inj hzero)

/-! ## Shortest decimals -/

theorem twoTo_pos (k : Nat) : 0 < twoTo k :=
  Nat.two_pow_pos k

theorem tenTo_pos (k : Nat) : 0 < tenTo k :=
  Nat.pow_pos (by decide)

/-- The interval around a double other than zero lies above zero. -/
theorem Interval.low_ofBinary_pos (h : b.mantissa ≠ 0) : 0 < (Interval.ofBinary b).low := by
  simp only [Interval.ofBinary]
  refine Nat.mul_pos ?_ ?_
  · split <;> omega
  · split
    · exact Nat.one_pos
    · exact twoTo_pos _

theorem Interval.low_inUnits_pos (h : 0 < i.low) (e : Int) : 0 < (i.inUnits e).low := by
  unfold Interval.inUnits
  split
  · exact Nat.mul_pos h (tenTo_pos _)
  · exact h

/-- What is nearest lies in the interval. -/
theorem Interval.holds_of_nearest? (h : i.nearest? = some n) : i.holds n = true := by
  unfold Interval.nearest? at h
  dsimp only at h
  split at h
  · cases h
  · next hbelow _ => exact Option.some.inj h ▸ hbelow
  · next _ habove => exact Option.some.inj h ▸ habove
  · next hbelow habove =>
    split_ifs at h <;> exact Option.some.inj h ▸ by assumption

theorem Interval.ne_zero_of_holds (hlow : 0 < i.low) (h : i.holds n = true) : n ≠ 0 := by
  rintro rfl
  simp only [Interval.holds, Nat.zero_mul] at h
  split at h
  · simp at h
    omega
  · simp at h

/-- No grid yields zero. -/
theorem ne_zero_of_firstGrid (hlow : 0 < i.low) {tries count : Nat}
    (h : firstGrid i point tries count = some (n, e)) : n ≠ 0 := by
  induction tries generalizing count with
  | zero => cases h
  | succ tries ih =>
    unfold firstGrid at h
    dsimp only at h
    split at h
    · next hnearest =>
      obtain ⟨rfl, -⟩ := Prod.mk.inj (Option.some.inj h)
      exact Interval.ne_zero_of_holds (Interval.low_inUnits_pos hlow _)
        (Interval.holds_of_nearest? hnearest)
    · exact ih h

/-- A number does not become zero by losing zeros. -/
theorem dropZeros_ne_zero (h : n ≠ 0) (tries : Nat) (e : Int) : (dropZeros tries n e).1 ≠ 0 := by
  induction tries generalizing n e with
  | zero => exact h
  | succ tries ih =>
    unfold dropZeros
    split
    · exact ih (by omega) _
    · exact h

/-- **Zero is written without a power of ten.** -/
theorem exponent_eq_zero_of_shortest? (h : shortest? x = some s) (hzero : s.coefficient = 0) :
    s.exponent = 0 := by
  unfold shortest? at h
  obtain ⟨b, -, h⟩ := Option.bind_eq_some_iff.mp h
  split at h
  · obtain rfl := Option.some.inj h
    rfl
  · next hmantissa =>
    obtain ⟨⟨n, e⟩, hgrid, h⟩ := Option.bind_eq_some_iff.mp h
    obtain rfl := Option.some.inj h
    have hn := ne_zero_of_firstGrid (Interval.low_ofBinary_pos hmantissa) hgrid
    exact absurd hzero (dropZeros_ne_zero hn 20 e)

end Decimal

end StarFreight
