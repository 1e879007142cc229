import StarFreight.Chart.StarSystem
import StarFreight.Text.Blank
import StarFreight.Text.Lowercase
/-!
# Avoidance — rules

A rule says what to keep away from: a system, a constellation, a region or the
connection between two systems. A hard rule forbids it and a soft one makes it
dearer, each in the phases it applies to. Rules are kept as rows that need not
make sense; `RuleRow.toRule?` admits those that do.
-/

namespace StarFreight

/-- The two ends of a connection, the smaller number first. -/
structure Link where
  low : SystemId
  high : SystemId
deriving DecidableEq, Repr

namespace Link

/-- The connection between two systems, in either direction. -/
def between (a b : SystemId) : Link :=
  if a ≤ b then ⟨a, b⟩ else ⟨b, a⟩

/-- A connection has no direction. -/
theorem between_comm (a b : SystemId) : between a b = between b a := by
  unfold between
  rcases Int.lt_trichotomy a b with h | h | h
  · rw [if_pos (Int.le_of_lt h), if_neg (Int.not_le.mpr h)]
  · rw [h]
  · rw [if_neg (Int.not_le.mpr h), if_pos (Int.le_of_lt h)]

/-- A connection is told by its two ends. -/
theorem between_eq_iff {a b c d : SystemId} :
    between a b = between c d ↔ a = c ∧ b = d ∨ a = d ∧ b = c := by
  unfold between
  split <;> split <;> grind

end Link

/-- What a rule is about. -/
inductive RuleScope where
  | system (id : SystemId)
  | constellation (id : ConstellationId)
  | region (id : RegionId)
  | edge (link : Link)
deriving DecidableEq, Repr

/-- The phases a rule applies to. -/
structure PhaseFlags where
  pickup : Bool := true
  delivery : Bool := true
  transit : Bool := true
deriving DecidableEq, Repr

/-- Whether the flags name a phase. -/
def PhaseFlags.applies (flags : PhaseFlags) : Phase → Bool
  | .pickup => flags.pickup
  | .delivery => flags.delivery
  | .transit => flags.transit

/-- An avoidance rule. -/
structure AvoidRule where
  id : Int
  /-- What it is about. -/
  scope : RuleScope
  /-- How strongly a soft rule discourages, at least 1. -/
  severity : Nat := 1
  /-- Whether it forbids rather than discourages. -/
  hard : Bool := false
  applies : PhaseFlags := {}
  reason : Option String := none
deriving DecidableEq, Repr

/-- What one point of severity adds to the cost of a step. -/
def severityCost : Nat := 3

/-- What crossing a soft rule adds to the cost of a step. -/
def AvoidRule.penalty (rule : AvoidRule) : Nat :=
  severityCost * rule.severity

/-- The largest severity a rule can have. -/
def maxSeverity : Int := 4294967295

/-- A rule as it is kept, before any check. -/
structure RuleRow where
  id : Int
  /-- The kind of target, in words. -/
  scopeType : String
  /-- The target, or the first end of a connection. -/
  idA : Option Int
  idB : Option Int
  /-- The severity, 1 when it is not given. -/
  severity : Option Int
  hard : Bool
  /-- Whether it applies to pickups; it does when that is not said. -/
  pickup : Option Bool
  /-- Whether it applies to deliveries; it does when that is not said. -/
  delivery : Option Bool
  /-- Whether it applies to passing through; it does when that is not said. -/
  transit : Option Bool
  reason : Option String
deriving DecidableEq, Repr

namespace RuleRow

/-- The scope of a row: its kind is known whatever its case and the blanks
around it, its target is given, and a connection has two different ends. -/
def scope? (row : RuleRow) : Option RuleScope :=
  let kind := Text.asciiLower (Text.trim row.scopeType)
  if kind = "system" then row.idA.map .system
  else if kind = "constellation" then row.idA.map .constellation
  else if kind = "region" then row.idA.map .region
  else if kind = "edge" then
    match row.idA, row.idB with
    | some a, some b => if a = b then none else some (.edge (Link.between a b))
    | _, _ => none
  else none

/-- The severity of a row: positive and not beyond 32 bits. -/
def severity? (row : RuleRow) : Option Nat :=
  match row.severity with
  | none => some 1
  | some n => if 0 < n ∧ n ≤ maxSeverity then some n.toNat else none

/-- The reason of a row, unless it is blank. -/
def givenReason (row : RuleRow) : Option String :=
  row.reason.filter fun text => !(text.toList.all Text.isBlank)

/-- The rule of a row, if the row makes sense. -/
def toRule? (row : RuleRow) : Option AvoidRule := do
  let scope ← row.scope?
  let severity ← row.severity?
  let applies : PhaseFlags :=
    { pickup := row.pickup.getD true, delivery := row.delivery.getD true
      transit := row.transit.getD true }
  some { id := row.id, scope, severity, hard := row.hard, applies, reason := row.givenReason }

end RuleRow

end StarFreight
