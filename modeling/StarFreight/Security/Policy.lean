import StarFreight.Chart.StarSystem
import StarFreight.Decimal.Binary
import StarFreight.Security.SecurityClass
/-!
# Security — policies

A policy says which class a system belongs to and what each class allows.
Membership of a special zone decides first, in the order of the zones;
otherwise the security value, rounded to one place, is held against the two
thresholds (`Policy.classify`).
-/

namespace StarFreight

/-- The least rounded security values of high and of low security. -/
structure Thresholds where
  /-- The least value that counts as high security. -/
  highsecMin : Float := 0.5
  /-- The least value that counts as low security. -/
  lowsecMin : Float := 0.1
deriving DecidableEq

/-- What is allowed in one class of space; a rule that names nothing allows
everything. -/
structure ClassRule where
  /-- Whether systems of the class may be entered at all. -/
  enabled : Bool := true
  allowPickup : Bool := true
  allowDelivery : Bool := true
  /-- Whether the customer has to acknowledge the risk. -/
  requiresAcknowledgement : Bool := false
deriving DecidableEq, Repr

namespace ClassRule

/-- Nothing but passing through, at an acknowledged risk. -/
def transitOnly : ClassRule :=
  { allowPickup := false, allowDelivery := false, requiresAcknowledgement := true }

/-- Nothing at all. -/
def closed : ClassRule :=
  { transitOnly with enabled := false }

/-- Whether the rule allows a system to be entered in a phase. -/
def permits (rule : ClassRule) (phase : Phase) : Bool :=
  rule.enabled &&
    match phase with
    | .pickup => rule.allowPickup
    | .delivery => rule.allowDelivery
    | .transit => true

end ClassRule

/-- The rule of every class. -/
structure ClassRules where
  highsec : ClassRule := {}
  lowsec : ClassRule := {}
  nullsec : ClassRule := {}
  pochven : ClassRule := { requiresAcknowledgement := true }
  zarzakh : ClassRule := .transitOnly
  thera : ClassRule := .closed
deriving DecidableEq, Repr

/-- The rule of a class. -/
def ClassRules.get (rules : ClassRules) : SecurityClass → ClassRule
  | .highsec => rules.highsec
  | .lowsec => rules.lowsec
  | .nullsec => rules.nullsec
  | .pochven => rules.pochven
  | .zarzakh => rules.zarzakh
  | .thera => rules.thera

/-- A special zone: the systems and regions that make up a class. -/
structure Zone where
  category : SecurityClass
  systems : List SystemId := []
  /-- The regions all of whose systems belong to it. -/
  regions : List RegionId := []
deriving DecidableEq, Repr

/-- Whether a system belongs to a zone, by itself or by its region. -/
def Zone.holds (zone : Zone) (s : StarSystem) : Bool :=
  zone.systems.contains s.id || zone.regions.contains s.region

/-- A security policy whose zones are given by numbers. -/
structure Policy where
  thresholds : Thresholds := {}
  /-- The special zones, the earlier deciding before the later. -/
  zones : List Zone := []
  rules : ClassRules := {}
deriving DecidableEq

/-- A security value as it is shown: rounded to one place. -/
def roundedSecurity (security : Float) : Float :=
  Decimal.roundTenths security

namespace Thresholds

/-- The band that a rounded security value falls into. -/
def band (t : Thresholds) (security : Float) : SecurityClass :=
  if security < t.lowsecMin then .nullsec
  else if security < t.highsecMin then .lowsec
  else .highsec

end Thresholds

namespace Policy

/-- The class of a system. -/
def classify (policy : Policy) (s : StarSystem) : SecurityClass :=
  match policy.zones.find? (·.holds s) with
  | some zone => zone.category
  | none => policy.thresholds.band (roundedSecurity s.security)

/-- The rule of the class of a system. -/
def ruleFor (policy : Policy) (s : StarSystem) : ClassRule :=
  policy.rules.get (policy.classify s)

/-- Whether a system may be entered in a phase. -/
def allows (policy : Policy) (s : StarSystem) (phase : Phase) : Bool :=
  (policy.ruleFor s).permits phase

end Policy

end StarFreight
