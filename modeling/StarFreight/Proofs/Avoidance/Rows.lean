import Mathlib.Tactic.SplitIfs
import StarFreight.Avoidance.Rule
/-!
# Avoidance — rows that make sense

What the check of a row asks, and what the rule is that it lets pass. A row names its
target in words and numbers (`RuleRow.Targets`); it is valid when it has one, and a
severity within bounds if it has any (`RuleRow.Valid`). The rule says what the row says,
and what the row leaves open is filled in (`RuleRow.Gives`).
-/

namespace StarFreight

/-- The ends of a connection between different systems are in ascending order. -/
theorem Link.low_lt_high_between {a b : SystemId} (h : a ≠ b) :
    (Link.between a b).low < (Link.between a b).high := by
  unfold between
  split
  · next hle => exact Int.lt_iff_le_and_ne.mpr ⟨hle, h⟩
  · next hle => exact Int.not_le.mp hle

namespace RuleRow

variable {row : RuleRow} {scope : RuleScope} {rule : AvoidRule}

/-- The kind of target, without blanks around it and with small Latin letters. -/
def kind (row : RuleRow) : String :=
  Text.asciiLower (Text.trim row.scopeType)

/-- What a row is about. -/
inductive Targets (row : RuleRow) : RuleScope → Prop where
  | system {id : SystemId} (hkind : row.kind = "system") (hid : row.idA = some id) :
      Targets row (.system id)
  | constellation {id : ConstellationId} (hkind : row.kind = "constellation")
      (hid : row.idA = some id) : Targets row (.constellation id)
  | region {id : RegionId} (hkind : row.kind = "region") (hid : row.idA = some id) :
      Targets row (.region id)
  | edge {a b : SystemId} (hkind : row.kind = "edge") (ha : row.idA = some a)
      (hb : row.idB = some b) (hne : a ≠ b) : Targets row (.edge (Link.between a b))

/-- **The scope of a row is what it is about.** -/
theorem scope?_eq_some_iff : row.scope? = some scope ↔ row.Targets scope := by
  have hkind : Text.asciiLower (Text.trim row.scopeType) = row.kind := rfl
  unfold scope?
  simp only [hkind]
  constructor
  · intro h
    split_ifs at h with hsystem hconstellation hregion hedge
    · obtain ⟨id, hid, rfl⟩ := Option.map_eq_some_iff.mp h
      exact .system hsystem hid
    · obtain ⟨id, hid, rfl⟩ := Option.map_eq_some_iff.mp h
      exact .constellation hconstellation hid
    · obtain ⟨id, hid, rfl⟩ := Option.map_eq_some_iff.mp h
      exact .region hregion hid
    · split at h
      · next a b ha hb =>
        split_ifs at h with hsame
        obtain rfl := Option.some.inj h
        exact .edge hedge ha hb hsame
      · cases h
  · rintro (⟨hkind, hid⟩ | ⟨hkind, hid⟩ | ⟨hkind, hid⟩ | ⟨hkind, ha, hb, hne⟩)
    · simp [hkind, hid]
    · simp [hkind, hid]
    · simp [hkind, hid]
    · simp [hkind, ha, hb, hne]

/-- Whether a row makes sense. A severity is positive and does not go beyond 32 bits. -/
structure Valid (row : RuleRow) : Prop where
  target : ∃ scope, row.Targets scope
  severity : ∀ n, row.severity = some n → 1 ≤ n ∧ n ≤ 4294967295

/-- What the rule of a row is. -/
structure Gives (row : RuleRow) (rule : AvoidRule) : Prop where
  id : rule.id = row.id
  scope : row.Targets rule.scope
  /-- A severity that is not given counts as 1. -/
  severity : (rule.severity : Int) = row.severity.getD 1
  severity_pos : 1 ≤ rule.severity
  severity_le : rule.severity ≤ 4294967295
  hard : rule.hard = row.hard
  /-- Phases of which nothing is said count as named. -/
  pickup : rule.applies.pickup = row.pickup.getD true
  delivery : rule.applies.delivery = row.delivery.getD true
  transit : rule.applies.transit = row.transit.getD true
  reason : rule.reason = row.givenReason

theorem severity?_eq_some_iff {n : Nat} : row.severity? = some n ↔
    (n : Int) = row.severity.getD 1 ∧ 1 ≤ n ∧ n ≤ 4294967295 := by
  unfold severity? maxSeverity
  cases row.severity with
  | none => simp; omega
  | some m =>
    simp only [Option.getD_some, Option.ite_none_right_eq_some, Option.some.injEq]
    omega

/-- **The rule of a row says what the row says.** -/
theorem toRule?_eq_some_iff : row.toRule? = some rule ↔ row.Gives rule := by
  unfold toRule?
  simp only [Option.bind_eq_bind, Option.bind_eq_some_iff, scope?_eq_some_iff,
    severity?_eq_some_iff, Option.some.injEq]
  constructor
  · rintro ⟨scope, hscope, severity, ⟨hseverity, hpos, hle⟩, rfl⟩
    exact ⟨rfl, hscope, hseverity, hpos, hle, rfl, rfl, rfl, rfl, rfl⟩
  · rintro ⟨hid, hscope, hseverity, hpos, hle, hhard, hpickup, hdelivery, htransit, hreason⟩
    obtain ⟨id, scope, severity, hard, ⟨pickup, delivery, transit⟩, reason⟩ := rule
    exact ⟨scope, hscope, severity, ⟨hseverity, hpos, hle⟩, by simp_all⟩

/-- **A row has a rule exactly when it makes sense.** -/
theorem isSome_toRule?_iff : row.toRule?.isSome = true ↔ row.Valid := by
  rw [Option.isSome_iff_exists]
  constructor
  · rintro ⟨rule, hrule⟩
    have hgives := toRule?_eq_some_iff.mp hrule
    refine ⟨⟨rule.scope, hgives.scope⟩, fun n hn => ?_⟩
    have hseverity := hgives.severity
    rw [hn, Option.getD_some] at hseverity
    have := hgives.severity_pos
    have := hgives.severity_le
    omega
  · rintro ⟨⟨scope, hscope⟩, hseverity⟩
    obtain ⟨n, hn⟩ : ∃ n : Nat, row.severity? = some n := by
      refine ⟨(row.severity.getD 1).toNat, severity?_eq_some_iff.mpr ?_⟩
      cases hgiven : row.severity with
      | none => decide
      | some m =>
        have := hseverity m hgiven
        rw [Option.getD_some]
        omega
    unfold toRule?
    simp [scope?_eq_some_iff.mpr hscope, hn]

/-- The connection that a rule is about has two ends, in ascending order. -/
theorem Targets.low_lt_high {link : Link} (h : row.Targets (.edge link)) :
    link.low < link.high := by
  cases h with
  | edge _ _ _ hne => exact Link.low_lt_high_between hne

end RuleRow

end StarFreight
