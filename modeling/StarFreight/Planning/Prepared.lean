import StarFreight.Location.Resolve
import StarFreight.Planning.Request
import StarFreight.Search.Step
import StarFreight.Store.Policies
/-!
# Planning — preparation

Everything that is settled before a route is looked for: both ends are
resolved, rules and policy are loaded, and the ends are checked against the
profile, the caller's scopes, the policy and the hard rules, in that order
(`endFault?`).
-/

namespace StarFreight

/-- One end of a route. -/
structure RouteEnd where
  /-- Whether cargo is loaded or unloaded there. -/
  phase : Phase
  system : StarSystem
  location : ResolvedLocation
  /-- Where the caller may act in this phase. -/
  scope : AccessScope

/-- What a route is looked for with. -/
structure Prepared where
  database : Database
  snapshot : Snapshot
  rules : RuleSet
  policy : Policy
  profile : Profile
  origin : RouteEnd
  destination : RouteEnd

namespace Prepared

/-- A failure after preparation, with both ends and the counts of rules. -/
def failure (p : Prepared) (cause : FailureCause) : Failure :=
  { cause, origin := some p.origin.system.id, destination := some p.destination.system.id
    ruleCounts := some (p.rules.hardCount, p.rules.softCount) }

/-- A failure of the local graph, with its assessment besides. -/
def graphFailure (p : Prepared) (cause : FailureCause) : Failure :=
  { p.failure cause with health := some p.snapshot.health }

/-- Both ends, the origin first. -/
def ends (p : Prepared) : List RouteEnd :=
  [p.origin, p.destination]

/-- What the search consults. -/
def context (p : Prepared) : SearchContext :=
  { snapshot := p.snapshot, rules := p.rules, policy := p.policy, profile := p.profile }

/-- The fault of an end outside high security under the safest profile. -/
def classFault? (p : Prepared) (e : RouteEnd) : Option FailureCause :=
  let category := p.policy.classify e.system
  if p.profile = .safest ∧ category ≠ .highsec then
    some (.endNotHighSec e.phase e.system.name category)
  else none

/-- The fault of an end outside the caller's scope. -/
def scopeFault? (_ : Prepared) (e : RouteEnd) : Option FailureCause :=
  if e.scope.permits e.system e.location.locationId then none
  else some (.endNotAllowed e.phase e.system.name)

/-- The fault of an end whose class the policy refuses. -/
def policyFault? (p : Prepared) (e : RouteEnd) : Option FailureCause :=
  if p.policy.allows e.system e.phase then none
  else some (.endClassRefused e.phase (p.policy.classify e.system) e.system.name)

/-- The fault of an end that a hard rule forbids. -/
def ruleFault? (p : Prepared) (e : RouteEnd) : Option FailureCause :=
  (p.rules.hardBlock? e.system e.phase).map fun rule =>
    .endBlocked e.phase e.system.name rule.id rule.reason

/-- The first fault of either end: every check looks at both ends before the
next check does. -/
def endFault? (p : Prepared) : Option FailureCause :=
  p.ends.findSome? p.classFault? <|> p.ends.findSome? p.scopeFault?
    <|> p.ends.findSome? p.policyFault? <|> p.ends.findSome? p.ruleFault?

end Prepared

/-- The system of a resolved place, which somebody has to know. -/
def Gazetteer.endSystem (g : Gazetteer) (location : ResolvedLocation) :
    Except FailureCause StarSystem := do
  match ← (g.database.knownSystem? g.snapshot location.systemId).mapError .store with
  | some s => return s
  | none => throw (.endUnknown location.matchedName location.systemId)

/-- Resolves both ends and loads rules and policy, without checking the ends. -/
def gatherPrepared (database : Database) (snapshot : Snapshot) (request : RouteRequest) :
    Except Failure Prepared := do
  let g : Gazetteer := { database, snapshot }
  let plain := fun cause : FailureCause => ({ cause } : Failure)
  let origin ← (g.resolve request.origin).mapError plain
  let destination ← (g.resolve request.destination).mapError fun cause =>
    { cause, origin := some origin.systemId }
  let rules ← database.rules.mapError .ofStore
  let policy ← database.policy.mapError .ofStore
  let originSystem ← (g.endSystem origin).mapError plain
  let destinationSystem ← (g.endSystem destination).mapError plain
  return {
    database, snapshot, rules, policy, profile := request.profile
    origin :=
      { phase := .pickup, system := originSystem, location := origin, scope := request.pickup }
    destination :=
      { phase := .delivery, system := destinationSystem, location := destination
        scope := request.delivery } }

/-- Everything that is settled before a route is looked for. -/
def prepare (database : Database) (snapshot : Snapshot) (request : RouteRequest) :
    Except Failure Prepared := do
  let p ← gatherPrepared database snapshot request
  match p.endFault? with
  | some cause => throw (p.failure cause)
  | none => return p

end StarFreight
