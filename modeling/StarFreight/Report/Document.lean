import StarFreight.Json.Printer
import StarFreight.Planning.Plan
/-!
# Report — documents

Routes, places, assessments and failures as JSON documents. Members stand in
the order of the fields they come from, and what is not known is left out.
-/

namespace StarFreight

/-- A failure as it is reported. -/
structure FailureReport where
  reason : ReasonCode
  message : String
  origin : Option SystemId := none
  destination : Option SystemId := none
  /-- The names that the caller may have meant. -/
  candidates : List String := []
  /-- How many hard and how many soft rules there were. -/
  ruleCounts : Option (Nat × Nat) := none
  health : Option Health := none
deriving DecidableEq, Repr

/-- The report of a failure. -/
def Failure.report (failure : Failure) : FailureReport :=
  { reason := failure.cause.reason, message := failure.cause.message
    origin := failure.origin, destination := failure.destination
    candidates := failure.cause.candidates, ruleCounts := failure.ruleCounts
    health := failure.health }

/-- An assessment as a document. -/
def Health.toJson (health : Health) : Json :=
  .ofMembers
    [ ("node_count", some (.ofNat health.nodeCount))
    , ("edge_count", some (.ofNat health.edgeCount))
    , ("ready", some (.bool health.ready))
    , ("reason", health.reason.map fun reason => .string reason.code) ]

/-- A resolved place as a document. -/
def ResolvedLocation.toJson (location : ResolvedLocation) : Json :=
  .ofMembers
    [ ("system_id", some (.ofInt location.systemId))
    , ("location_id", location.locationId.map .ofInt)
    , ("matched_name", some (.string location.matchedName)) ]

/-- A scope as a document. -/
def RuleScope.toJson : RuleScope → Json
  | .system id => .object [("type", .string "system"), ("id", .ofInt id)]
  | .constellation id => .object [("type", .string "constellation"), ("id", .ofInt id)]
  | .region id => .object [("type", .string "region"), ("id", .ofInt id)]
  | .edge link =>
    .object [("type", .string "edge"), ("edge", .array [.ofInt link.low, .ofInt link.high])]

/-- A rule as a document. -/
def AvoidRule.toJson (rule : AvoidRule) : Json :=
  .ofMembers
    [ ("id", some (.ofInt rule.id))
    , ("scope", some rule.scope.toJson)
    , ("severity", some (.ofNat rule.severity))
    , ("hard_block", some (.bool rule.hard))
    , ("applies", some (.object
        [ ("pickup", .bool rule.applies.pickup)
        , ("delivery", .bool rule.applies.delivery)
        , ("transit", .bool rule.applies.transit) ]))
    , ("reason", rule.reason.map .string) ]

/-- What a backfill wrote as a document. -/
def BackfillReport.toJson (report : BackfillReport) : Json :=
  .ofMembers
    [ ("nodes_inserted", some (.ofNat report.nodesInserted))
    , ("edges_inserted", some (.ofNat report.edgesInserted))
    , ("skipped_systems",
        if report.skippedSystems.isEmpty then none
        else some (.array (report.skippedSystems.map .ofInt))) ]

/-- A step as a document; `real` writes security values. -/
def RouteStep.toJson (real : Float → Json) (step : RouteStep) : Json :=
  .object
    [ ("system_id", .ofInt step.systemId)
    , ("name", .string step.name)
    , ("security", real step.security)
    , ("class", .string step.category.label) ]

/-- A route as a document; `real` writes security values. -/
def Route.toJson (real : Float → Json) (route : Route) : Json :=
  .ofMembers
    [ ("origin", some (.ofInt route.origin))
    , ("destination", some (.ofInt route.destination))
    , ("path", some (.array (route.path.map (·.toJson real))))
    , ("hop_count", some (.ofNat route.hopCount))
    , ("class_counts", some (.object (route.classCounts.map fun (c, n) => (c.label, .ofNat n))))
    , ("soft_rules_hit", some (.array (route.softRulesHit.map (·.toJson))))
    , ("hard_rule_count", some (.ofNat route.hardRuleCount))
    , ("soft_rule_count", some (.ofNat route.softRuleCount))
    , ("profile", some (.string route.profile.label))
    , ("source", some (.string route.source.label))
    , ("security_excluded", some (.ofNat route.securityExcluded))
    , ("acknowledgements_required",
        some (.array (route.acknowledgements.map fun c => .string c.label)))
    , ("backfill", route.backfill.map (·.toJson)) ]

namespace FailureReport

/-- The circumstances of a failure as a document. -/
def context (failure : FailureReport) : Json :=
  .ofMembers
    [ ("origin", failure.origin.map .ofInt)
    , ("destination", failure.destination.map .ofInt)
    , ("candidates",
        if failure.candidates.isEmpty then none
        else some (.array (failure.candidates.map .string)))
    , ("hard_rule_count", failure.ruleCounts.map fun counts => .ofNat counts.1)
    , ("soft_rule_count", failure.ruleCounts.map fun counts => .ofNat counts.2)
    , ("graph_health", failure.health.map (·.toJson)) ]

/-- A failure as a document. -/
def toJson (failure : FailureReport) : Json :=
  .object
    [ ("reason", .string failure.reason.label)
    , ("message", .string failure.message)
    , ("context", failure.context) ]

end FailureReport

end StarFreight
