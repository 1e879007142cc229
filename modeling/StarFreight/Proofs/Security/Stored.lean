import Mathlib
import StarFreight.Proofs.Decimal.Place
import StarFreight.Search.Step
/-!
# Security — stored systems

A column for real numbers keeps `x + 0` of a value `x`. That is `x` itself but
for the sign of a zero (`add_zero_eq_or`), and no class hangs on that sign. So a
system that was stored is treated like the one it was copied from: it has the
same class, and a search admits it where it admits the other, at the same cost
(`Resembles`).
-/

namespace StarFreight

namespace Decimal

open Float.Model (UnpackedFloat)

/-- What a double is unpacked to packs to the double again. -/
theorem pack_unpack (m : Float.Model) : Float.Model.pack m.unpack = m := by
  obtain ⟨bits, valid⟩ := m
  simp only [Float.Model.pack, Float.Model.unpack, UnpackedFloat.pack_unpack_of_valid valid]

/-- **To add zero changes nothing but the sign of a zero.** -/
theorem add_zero_eq_or (x : Float) : x + 0 = x ∨ x = -0 := by
  obtain ⟨m⟩ := x
  have hsum : (⟨m⟩ : Float) + 0 =
      ⟨.pack (UnpackedFloat.add .binary64 m.unpack (.zero .positive))⟩ :=
    rfl
  have hself : (⟨m⟩ : Float) = ⟨.pack m.unpack⟩ := by rw [pack_unpack]
  rw [hsum, hself]
  cases m.unpack with
  | notANumber | infinity | finite => exact .inl rfl
  | zero sign =>
    cases sign with
    | positive => exact .inl rfl
    | negative => exact .inr rfl

/-- A comparison does not see the sign of a zero. -/
theorem neg_zero_lt_iff (y : Float) : (-0 : Float) < y ↔ (0 : Float) < y := by
  have hneg : (-0 : Float).toModel.unpack = .zero .negative := rfl
  have hpos : (0 : Float).toModel.unpack = .zero .positive := rfl
  rw [lt_iff_unpack_lt, lt_iff_unpack_lt, hneg, hpos]
  cases y.toModel.unpack with
  | notANumber | zero => rfl
  | infinity sign => cases sign <;> rfl
  | finite sign _ _ _ => cases sign <;> rfl

end Decimal

/-- A security value and the one that is kept of it fall into the same band. -/
theorem Thresholds.band_add_zero (t : Thresholds) (x : Float) :
    t.band (roundedSecurity (x + 0)) = t.band (roundedSecurity x) := by
  rcases Decimal.add_zero_eq_or x with hx | rfl
  · rw [hx]
  · have hkept : roundedSecurity (-0 + 0) = 0 := by decide +kernel
    have hgiven : roundedSecurity (-0) = -0 := by decide +kernel
    simp only [band, hkept, hgiven, Decimal.neg_zero_lt_iff]

/-- The first of two systems is the second, or is what a table keeps of it. -/
def StarSystem.Resembles (a b : StarSystem) : Prop :=
  a = b ∨ a = { b with security := b.security + 0 }

namespace StarSystem.Resembles

variable {a b : StarSystem} (h : a.Resembles b)

include h

theorem id_eq : a.id = b.id := by
  rcases h with rfl | rfl <;> rfl

theorem name_eq : a.name = b.name := by
  rcases h with rfl | rfl <;> rfl

theorem region_eq : a.region = b.region := by
  rcases h with rfl | rfl <;> rfl

theorem holds_eq (zone : Zone) : zone.holds a = zone.holds b := by
  rcases h with rfl | rfl <;> rfl

/-- **A stored system keeps its class.** -/
theorem classify_eq (policy : Policy) : policy.classify a = policy.classify b := by
  have hzones : policy.zones.find? (·.holds a) = policy.zones.find? (·.holds b) := by
    simp only [holds_eq h]
  rcases h with rfl | rfl
  · rfl
  · simp only [Policy.classify, hzones, Thresholds.band_add_zero]

theorem allows_eq (policy : Policy) (phase : Phase) :
    policy.allows a phase = policy.allows b phase := by
  rw [Policy.allows, Policy.allows, Policy.ruleFor, Policy.ruleFor, h.classify_eq]

theorem blocks_eq (rules : RuleSet) (phase : Phase) :
    rules.blocks a phase = rules.blocks b phase := by
  rcases h with rfl | rfl <;> rfl

end StarSystem.Resembles

end StarFreight
