import Mathlib
import StarFreight.Decimal.Binary
/-!
# Decimal — the places of doubles

A double has its place among all doubles by its bits alone. They hold a sign and a
magnitude, and of two magnitudes the greater belongs to the greater exponent or, at equal
exponents, to the greater mantissa (`shape_unpack`). So a double has its place in front of
each that is greater (`floatPlace_lt_of_lt`), and no two share a place
(`floatPlace_injective`).
-/

namespace StarFreight

namespace Decimal

open Float.Model (Format UnpackedFloat)
open Float.Model.UnpackedFloat (Sign unpackMantissa unpackExponent unpackSign)

theorem lt_iff_unpack_lt (x y : Float) :
    x < y ↔ x.toModel.unpack.lt y.toModel.unpack = true :=
  decide_eq_true_iff

/-! ## The shape of a double -/

/-- The place of a sign and a magnitude: with a minus they come in reverse, in front of
all others. -/
def placeOf : Sign → Nat → Int
  | .positive, magnitude => magnitude
  | .negative, magnitude => -1 - magnitude

/-- What a double with a given sign and magnitude can be. -/
inductive Shape (sign : Sign) (magnitude : Nat) : UnpackedFloat → Prop
  | zero (hzero : magnitude = 0) : Shape sign magnitude (.zero sign)
  /-- The mantissa takes up all its bits but at the least exponent, so no two pairs of parts
  share a magnitude. -/
  | finite {mantissa : Nat} {exponent : Int} {hpos : 0 < mantissa} (hleast : -1074 ≤ exponent)
      (hfull : mantissa < 2 ^ 52 → exponent = -1074) (hmost : mantissa < 2 ^ 53)
      (hparts : (magnitude : Int) = (exponent + 1074) * 2 ^ 52 + mantissa)
      (hfinite : magnitude < 2047 * 2 ^ 52) :
      Shape sign magnitude (.finite sign mantissa exponent hpos)
  | infinity (hinfinite : magnitude = 2047 * 2 ^ 52) : Shape sign magnitude (.infinity sign)
  | notANumber : Shape sign magnitude .notANumber

section Order

variable {s t : Sign} {a b : Nat} {x y : UnpackedFloat}

/-- The lesser parts have the lesser magnitude. -/
theorem magnitude_lt_of_parts_lt {m n : Nat} {e f : Int} (hleast : -1074 ≤ e)
    (hmost : m < 2 ^ 53) (hfull : n < 2 ^ 52 → f = -1074)
    (ha : (a : Int) = (e + 1074) * 2 ^ 52 + m) (hb : (b : Int) = (f + 1074) * 2 ^ 52 + n)
    (h : (compare e f).then (compare m n) = .lt) : a < b := by
  rw [Ordering.then_eq_lt, compare_lt_iff_lt, compare_eq_iff_eq, compare_lt_iff_lt] at h
  omega

/-- **What is less has its place in front.** -/
theorem Shape.placeOf_lt (hx : Shape s a x) (hy : Shape t b y) (h : x.lt y = true) :
    placeOf s a < placeOf t b := by
  have hlt : x.compare y = some .lt := beq_iff_eq.mp h
  cases hx with
  | notANumber => cases hlt
  | zero hzero =>
    cases hy with
    | notANumber | zero => cases hlt
    | @finite _ _ hpos | infinity =>
      cases t with
      | negative => cases hlt
      | positive => cases s <;> simp only [placeOf] <;> omega
  | infinity hinfinite =>
    cases s with
    | positive => cases hy <;> cases t <;> cases hlt
    | negative =>
      cases hy with
      | notANumber => cases hlt
      | zero | finite => cases t <;> simp only [placeOf] <;> omega
      | infinity =>
        cases t with
        | negative => cases hlt
        | positive => simp only [placeOf]; omega
  | @finite _ _ hpos hleast hfull hmost hparts hfinite =>
    cases hy with
    | notANumber => cases hlt
    | zero =>
      cases s with
      | positive => cases hlt
      | negative => cases t <;> simp only [placeOf] <;> omega
    | infinity =>
      cases t with
      | negative => cases s <;> cases hlt
      | positive => cases s <;> simp only [placeOf] <;> omega
    | finite hleast' hfull' hmost' hparts' =>
      cases s with
      | positive =>
        cases t with
        | negative => cases hlt
        | positive =>
          have hmagnitude : a < b :=
            magnitude_lt_of_parts_lt hleast hmost hfull' hparts hparts' (Option.some.inj hlt)
          simp only [placeOf]
          omega
      | negative =>
        cases t with
        | positive => simp only [placeOf]; omega
        | negative =>
          -- below zero the comparison is turned around, and so are the places
          have hgt := Option.some.inj hlt
          rw [Ordering.swap_then, ← Std.OrientedCmp.eq_swap, ← Std.OrientedCmp.eq_swap] at hgt
          have hmagnitude : b < a :=
            magnitude_lt_of_parts_lt hleast' hmost' hfull hparts' hparts hgt
          simp only [placeOf]
          omega

end Order

/-! ## The bits of a double -/

theorem toNat_unpackMantissa (bits : BitVec 64) :
    (@unpackMantissa .binary64 bits).toNat = bits.toNat % 2 ^ 52 := by
  simp [unpackMantissa]

theorem toNat_unpackExponent (bits : BitVec 64) :
    (@unpackExponent .binary64 bits).toNat = bits.toNat / 2 ^ 52 % 2 ^ 11 := by
  simp [unpackExponent, Nat.shiftRight_eq_div_pow]

theorem toNat_unpackSign (bits : BitVec 64) :
    (@unpackSign .binary64 bits).toNat = bits.toNat / 2 ^ 63 := by
  have := bits.isLt
  simp [unpackSign, Nat.shiftRight_eq_div_pow]
  omega

/-- The leading one that is not stored stands in front of the mantissa. -/
theorem toNat_leading_append {n : Nat} (mantissa : BitVec n) :
    (1#1 ++ mantissa).toNat = 2 ^ n + mantissa.toNat := by
  rw [BitVec.toNat_append, ← Nat.shiftLeft_add_eq_or_of_lt mantissa.isLt]
  simp [Nat.shiftLeft_eq]

/-- **What a double is unpacked to** has the sign and the magnitude of its bits. -/
theorem shape_unpack (bits : BitVec 64) :
    Shape (.ofBitVec (@unpackSign .binary64 bits)) (bits.toNat % 2 ^ 63)
      (.unpack .binary64 bits) := by
  have hmantissa := toNat_unpackMantissa bits
  have hexponent := toNat_unpackExponent bits
  have hleading : (1#1 ++ @unpackMantissa .binary64 bits).toNat = 2 ^ 52 + _ :=
    toNat_leading_append _
  have hbias : Format.binary64.exponentBias = 1023 := rfl
  have hones : (-1#11).toNat = 2047 := rfl
  unfold UnpackedFloat.unpack
  simp only [BitVec.toNat_eq, hones, BitVec.toNat_ofNat, Nat.zero_mod]
  split
  · split
    · exact .infinity (by omega)
    · exact .notANumber
  · split
    · split
      · exact .zero (by omega)
      · exact .finite (by omega) (by omega) (by omega) (by omega) (by omega)
    · exact .finite (by omega) (by omega) (by omega) (by omega) (by omega)

theorem floatPlace_eq_placeOf (x : Float) :
    floatPlace x = placeOf (.ofBitVec (@unpackSign .binary64 x.toBits.toBitVec))
      (x.toBits.toNat % 2 ^ 63) := by
  have hbits := x.toBits.toNat_lt
  have hsign := toNat_unpackSign x.toBits.toBitVec
  rw [UInt64.toNat_toBitVec] at hsign
  have htwo : (twoTo 63 : Int) = 2 ^ 63 := rfl
  simp only [floatPlace, htwo, Sign.ofBitVec, BitVec.toNat_eq, hsign, BitVec.toNat_ofNat,
    Nat.zero_mod]
  split <;> split <;> simp only [placeOf] <;> omega

/-! ## The order of the places -/

/-- **Of two doubles the less has its place in front.** -/
theorem floatPlace_lt_of_lt {x y : Float} (h : x < y) : floatPlace x < floatPlace y := by
  rw [floatPlace_eq_placeOf, floatPlace_eq_placeOf]
  exact (shape_unpack _).placeOf_lt (shape_unpack _) ((lt_iff_unpack_lt x y).mp h)

/-- **Each double has a place of its own.** -/
theorem floatPlace_injective : Function.Injective floatPlace := by
  intro x y h
  have hx := x.toBits.toNat_lt
  have hy := y.toBits.toNat_lt
  have htwo : (twoTo 63 : Int) = 2 ^ 63 := rfl
  have hbits : x.toBits = y.toBits := by
    rw [← UInt64.toNat_inj]
    simp only [floatPlace, htwo] at h
    omega
  obtain ⟨⟨bits, _⟩⟩ := x
  obtain ⟨⟨bits', _⟩⟩ := y
  obtain rfl : bits = bits' := hbits
  rfl

end Decimal

end StarFreight
