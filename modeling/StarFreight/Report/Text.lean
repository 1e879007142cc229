import StarFreight.Decimal.Fixed
import StarFreight.Report.Document
/-!
# Report — text

What is printed for people, in lines, or for programs, as one document.
Security values have one place.
-/

namespace StarFreight

open Decimal

/-- How results are printed. -/
inductive OutputFormat where
  | text
  | json
deriving DecidableEq, Repr

namespace OutputFormat

/-- The name of a format. -/
def label : OutputFormat → String
  | .text => "text"
  | .json => "json"

/-- The format that a name stands for. -/
def ofLabel? (name : String) : Option OutputFormat :=
  [OutputFormat.text, .json].find? (·.label == name)

/-- Lines, each ended. -/
def unlines (lines : List String) : String :=
  String.join (lines.map (· ++ "\n"))

/-- The printed form of a thing that has lines and a document. -/
def print (format : OutputFormat) (lines : List String) (doc : Json) : String :=
  match format with
  | .text => unlines lines
  | .json => unlines [doc.pretty]

end OutputFormat

/-- A list of texts with a separator between them. -/
def commaList (texts : List String) : String :=
  String.intercalate ", " texts

/-- The line of an assessment. -/
def Health.line (health : Health) : String :=
  let status := match health.reason with
    | none => "ready"
    | some reason => "not ready (" ++ reason.code ++ ")"
  status ++ ": " ++ toString health.nodeCount ++ " systems, " ++ toString health.edgeCount
    ++ " gates"

/-- The line of a resolved place. -/
def ResolvedLocation.line (location : ResolvedLocation) : String :=
  let system := location.matchedName ++ " -> system " ++ integerText location.systemId
  match location.locationId with
  | none => system
  | some id => system ++ " (location " ++ integerText id ++ ")"

/-- The line of a step. -/
def RouteStep.line (step : RouteStep) : String :=
  "- " ++ step.name ++ " (" ++ integerText step.systemId ++ ") [" ++ step.category.label ++ " "
    ++ fixedText 1 step.security ++ "]"

/-- The line of a soft rule that is crossed. -/
def AvoidRule.crossedLine (rule : AvoidRule) : String :=
  let crossed := "Avoidance rule " ++ integerText rule.id ++ " crossed"
  match rule.reason with
  | none => crossed
  | some reason => crossed ++ ": " ++ reason

/-- The lines of a route. -/
def Route.lines (route : Route) : List String :=
  let source := match route.source with
    | .localGraph => "local graph"
    | .oracle => "routing oracle"
  let head := "Route (" ++ toString route.hopCount ++ " jumps, profile: " ++ route.profile.label
    ++ ", via " ++ source ++ "):"
  let tally := route.classCounts.map fun (c, n) => c.label ++ ": " ++ toString n
  let security := if tally.isEmpty then [] else ["Security: " ++ commaList tally]
  let risks := route.acknowledgements.map (·.label)
  let acknowledgement :=
    if risks.isEmpty then [] else ["Acknowledgement required for: " ++ commaList risks]
  let backfill := match route.backfill with
    | none => []
    | some report =>
      [ "Backfilled " ++ toString report.nodesInserted ++ " systems and "
          ++ toString report.edgesInserted ++ " gates" ]
  head :: route.path.map (·.line) ++ security ++ route.softRulesHit.map (·.crossedLine)
    ++ acknowledgement ++ backfill

/-- The lines of a failure. -/
def FailureReport.lines (failure : FailureReport) : List String :=
  let head := "error[" ++ failure.reason.label ++ "]: " ++ failure.message
  let candidates :=
    if failure.candidates.isEmpty then []
    else "Candidates:" :: failure.candidates.map ("  - " ++ ·)
  let graph := match failure.health with
    | none => []
    | some health => ["Graph: " ++ health.line]
  head :: candidates ++ graph

/-- The printed form of an assessment. -/
def Health.printed (format : OutputFormat) (health : Health) : String :=
  format.print [health.line] health.toJson

/-- The printed form of a resolved place. -/
def ResolvedLocation.printed (format : OutputFormat) (location : ResolvedLocation) : String :=
  format.print [location.line] location.toJson

/-- The printed form of a route. -/
def Route.printed (format : OutputFormat) (route : Route) : String :=
  format.print route.lines (route.toJson Json.ofFloat)

/-- The printed form of a failure. -/
def FailureReport.printed (format : OutputFormat) (failure : FailureReport) : String :=
  format.print failure.lines failure.toJson

end StarFreight
