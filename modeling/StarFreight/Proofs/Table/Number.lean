import StarFreight.Proofs.Security.Stored
import StarFreight.Table.Cell
/-!
# Table — cells that hold a number

An integer may stand in a cell as it is or as a real number equal to it. Cells
that hold the same hold the same integer (`Cell.IsNumber.of_same`): that needs
doubles to be told apart by their order, which they are but for the sign of a
zero (`Decimal.eq_or_zero_of_not_lt`) and for what is no number at all. A table
keeps none of the latter (`Cell.Storable`).
-/

namespace StarFreight

namespace Decimal

open Float.Model (UnpackedFloat)

/-! ## The order of doubles -/

theorem eq_of_unpack_eq {x y : Float} (h : x.toModel.unpack = y.toModel.unpack) : x = y := by
  obtain ⟨m⟩ := x
  obtain ⟨k⟩ := y
  have hmodel : m = k := by
    rw [← pack_unpack m, ← pack_unpack k]
    exact congrArg _ h
  rw [hmodel]

/-- Numbers compare one way or another. -/
theorem isSome_compare {x y : UnpackedFloat} (hx : x.isNaN = false) (hy : y.isNaN = false) :
    (x.compare y).isSome = true := by
  cases x with
  | notANumber => cases hx
  | infinity s | zero s | finite s =>
    cases y with
    | notANumber => cases hy
    | infinity t | zero t | finite t => cases s <;> cases t <;> rfl

theorem compare_swap (x y : UnpackedFloat) : y.compare x = (x.compare y).map Ordering.swap := by
  cases x with
  | notANumber =>
    cases y with
    | notANumber => rfl
    | infinity t | zero t | finite t => cases t <;> rfl
  | infinity s | zero s =>
    cases y with
    | notANumber => cases s <;> rfl
    | infinity t | zero t | finite t => cases s <;> cases t <;> rfl
  | finite s m e =>
    cases y with
    | notANumber => cases s <;> rfl
    | infinity t | zero t => cases s <;> cases t <;> rfl
    | finite t k d =>
      have hparts : (compare d e).then (compare k m) =
          ((compare e d).then (compare m k)).swap := by
        have hexponents : compare d e = (compare e d).swap := Std.OrientedCmp.eq_swap
        have hmantissas : compare k m = (compare m k).swap := Std.OrientedCmp.eq_swap
        rw [Ordering.swap_then, hexponents, hmantissas]
      cases s <;> cases t <;> simp [UnpackedFloat.compare, hparts]

/-- What compares equal is the same, zeros apart. -/
theorem eq_or_zero_of_compare {x y : UnpackedFloat} (h : x.compare y = some .eq) :
    x = y ∨ (∃ s, x = .zero s) ∧ ∃ s, y = .zero s := by
  cases x with
  | notANumber => cases h
  | infinity s =>
    cases y with
    | infinity t => cases s <;> cases t <;> first | exact .inl rfl | cases h
    | _ => cases s <;> cases h
  | zero s =>
    cases y with
    | zero t => exact .inr ⟨⟨s, rfl⟩, ⟨t, rfl⟩⟩
    | notANumber => cases h
    | infinity t | finite t => cases t <;> cases h
  | finite s m e =>
    cases y with
    | notANumber => cases s <;> cases h
    | infinity t | zero t => cases s <;> cases t <;> cases h
    | finite t k d =>
      have hsign : s = t := by cases s <;> cases t <;> first | rfl | cases h
      have hparts : (compare e d).then (compare m k) = .eq := by
        subst hsign
        cases s <;> simpa [UnpackedFloat.compare] using h
      obtain ⟨he, hm⟩ := Ordering.then_eq_eq.mp hparts
      obtain rfl := Std.LawfulEqCmp.eq_of_compare he
      obtain rfl := Std.LawfulEqCmp.eq_of_compare hm
      exact .inl (by rw [hsign])

/-- **Numbers of which neither comes before the other are equal**, or are both zero. -/
theorem eq_or_zero_of_not_lt {x y : Float} (hx : x.isNaN = false) (hy : y.isNaN = false)
    (h : ¬ x < y) (h' : ¬ y < x) : x = y ∨ (x = 0 ∨ x = -0) ∧ (y = 0 ∨ y = -0) := by
  have hzero : ∀ z : Float, (∃ s, z.toModel.unpack = .zero s) → z = 0 ∨ z = -0 := by
    rintro z ⟨s, hz⟩
    cases s with
    | positive => exact .inl (eq_of_unpack_eq hz)
    | negative => exact .inr (eq_of_unpack_eq hz)
  obtain ⟨order, horder⟩ := Option.isSome_iff_exists.mp (isSome_compare hx hy)
  have hequal : x.toModel.unpack.compare y.toModel.unpack = some .eq := by
    rw [lt_iff_unpack_lt] at h h'
    rw [UnpackedFloat.lt, horder] at h
    rw [UnpackedFloat.lt, compare_swap x.toModel.unpack, horder] at h'
    cases order with
    | lt => exact absurd rfl h
    | gt => exact absurd rfl h'
    | eq => exact horder
  rcases eq_or_zero_of_compare hequal with heq | ⟨hx, hy⟩
  · exact .inl (eq_of_unpack_eq heq)
  · exact .inr ⟨hzero x hx, hzero y hy⟩

/-! ## Integers among doubles -/

theorem Binary.denominator_pos (b : Binary) : 0 < b.magnitude.2 := by
  unfold magnitude
  split
  · exact Nat.two_pow_pos _
  · exact Nat.one_pos

/-- A zero is compared without its sign. -/
theorem compareInteger_neg_zero (n : Int) : compareInteger n (-0) = compareInteger n 0 := by
  have hneg : Binary.ofFloat? (-0) = some ⟨true, 0, -1074⟩ := by decide +kernel
  have hpos : Binary.ofFloat? 0 = some ⟨false, 0, -1074⟩ := by decide +kernel
  rw [compareInteger, compareInteger, hneg, hpos]
  rfl

/-- A double is equal to one integer at most. -/
theorem eq_of_compareInteger {n m : Int} {x : Float} (hn : compareInteger n x = .eq)
    (hm : compareInteger m x = .eq) : n = m := by
  unfold compareInteger at hn hm
  cases hx : Binary.ofFloat? x with
  | none =>
    simp only [hx] at hn
    split at hn <;> cases hn
  | some b =>
    simp only [hx] at hn hm
    have hden : (b.magnitude.2 : Int) ≠ 0 := by
      have hpos := b.denominator_pos
      omega
    exact Int.eq_of_mul_eq_mul_right hden
      ((Std.LawfulEqCmp.eq_of_compare hn).trans (Std.LawfulEqCmp.eq_of_compare hm).symm)

/-- Numbers of which neither comes before the other compare alike with integers. -/
theorem compareInteger_congr {x y : Float} (hx : x.isNaN = false) (hy : y.isNaN = false)
    (h : ¬ x < y) (h' : ¬ y < x) (n : Int) : compareInteger n x = compareInteger n y := by
  rcases eq_or_zero_of_not_lt hx hy h h' with rfl | ⟨hx, hy⟩
  · rfl
  · have hzero : ∀ z : Float, z = 0 ∨ z = -0 → compareInteger n z = compareInteger n 0 := by
      rintro z (rfl | rfl)
      · rfl
      · exact compareInteger_neg_zero n
    rw [hzero x hx, hzero y hy]

end Decimal

namespace Cell

/-- A table keeps a value as long as it is one: what is no number is kept as
nothing. -/
def Storable : Cell → Prop
  | real x => x.isNaN = false
  | _ => True

instance : DecidablePred Storable
  | real x => inferInstanceAs (Decidable (x.isNaN = false))
  | null | integer _ | text _ => .isTrue trivial

/-- The cell holds an integer, or a real number equal to it. -/
def IsNumber (n : Int) : Cell → Prop
  | integer m => m = n
  | real x => Decimal.compareInteger n x = .eq
  | _ => False

variable {a b : Cell} {n : Int}

/-- **Cells that hold the same hold the same integer.** -/
theorem IsNumber.of_same (h : a.IsNumber n) (ha : a.Storable) (hb : b.Storable)
    (hsame : a.same b = true) : b.IsNumber n := by
  obtain ⟨hab, hba⟩ : a.lt b = false ∧ b.lt a = false := by simpa [same] using hsame
  -- neither smaller nor greater is the same
  have heq : ∀ order : Ordering, (order == .lt) = false → (order == .gt) = false → order = .eq := by
    decide
  cases a with
  | null | text => exact h.elim
  | integer m =>
    obtain rfl : m = n := h
    cases b with
    | null | text => simp [lt] at hab hba
    | integer k =>
      simp only [lt, decide_eq_false_iff_not] at hab hba
      show k = m
      omega
    | real y => exact heq _ hab hba
  | real x =>
    cases b with
    | null | text => simp [lt] at hab hba
    | integer m => exact Decimal.eq_of_compareInteger (heq _ hba hab) h
    | real y =>
      simp only [lt, decide_eq_false_iff_not] at hab hba
      exact (Decimal.compareInteger_congr ha hb hab hba n).symm.trans h

end Cell

end StarFreight
