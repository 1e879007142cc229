import StarFreight.Planning.Backfill
import StarFreight.Planning.Prepared
import StarFreight.Search.Cheapest
/-!
# Planning — routes

The route handed back to a caller: its steps with their classes, and what the
caller should know of it. A route is put together from the systems on its path
(`Prepared.route`), the same way whichever source it comes from.
-/

namespace StarFreight

/-- Where a route comes from. -/
inductive RouteSource where
  | localGraph
  | oracle
deriving DecidableEq, Repr

/-- The name of a source. -/
def RouteSource.label : RouteSource → String
  | .localGraph => "local"
  | .oracle => "oracle"

/-- A system on a route. -/
structure RouteStep where
  systemId : SystemId
  name : String
  /-- Its security value, rounded to one place. -/
  security : Float
  category : SecurityClass
deriving DecidableEq

/-- A planned route. -/
structure Route where
  origin : SystemId
  destination : SystemId
  /-- Its systems, both ends included. -/
  path : List RouteStep
  /-- How many jumps it takes. -/
  hopCount : Nat
  /-- How many systems of each class it enters; the first system is not
  entered. -/
  classCounts : List (SecurityClass × Nat)
  softRulesHit : List AvoidRule
  hardRuleCount : Nat
  softRuleCount : Nat
  profile : Profile
  source : RouteSource
  /-- How many systems security refused. -/
  securityExcluded : Nat
  /-- The classes on it whose risk the customer has to acknowledge. -/
  acknowledgements : List SecurityClass
  /-- What was written into the graph, if that was tried and succeeded. -/
  backfill : Option BackfillReport
deriving DecidableEq

/-- How often each class occurs, leaving out those that do not. -/
def tallyClasses (classes : List SecurityClass) : List (SecurityClass × Nat) :=
  (SecurityClass.all.map fun c => (c, classes.count c)).filter fun entry => entry.2 != 0

/-- The classes that occur and whose risk has to be acknowledged. -/
def acknowledgementsFor (policy : Policy) (classes : List SecurityClass) : List SecurityClass :=
  SecurityClass.all.filter fun c =>
    classes.contains c && (policy.rules.get c).requiresAcknowledgement

/-- The step of a route at a system. -/
def Policy.step (policy : Policy) (s : StarSystem) : RouteStep :=
  { systemId := s.id, name := s.name, security := roundedSecurity s.security
    category := policy.classify s }

/-- The route along the given systems. -/
def Prepared.route (p : Prepared) (systems : List StarSystem) (source : RouteSource)
    (excluded : Nat) (backfill : Option BackfillReport) : Route :=
  let classes := systems.map p.policy.classify
  { origin := p.origin.system.id
    destination := p.destination.system.id
    path := systems.map p.policy.step
    hopCount := systems.length - 1
    classCounts := tallyClasses classes.tail
    softRulesHit := softRulesOnPath p.rules systems
    hardRuleCount := p.rules.hardCount
    softRuleCount := p.rules.softCount
    profile := p.profile
    source := source
    securityExcluded := excluded
    acknowledgements := acknowledgementsFor p.policy classes
    backfill := backfill }

end StarFreight
