import StarFreight.Chart.Health
import StarFreight.Location.Query
import StarFreight.Oracle.Basic
import StarFreight.Security.SecurityClass
import StarFreight.Store.Error
/-!
# Planning — failures

Why there is no route. A failure has a cause and the circumstances it arose
in; the cause determines a reason code, which programs read, and a message,
which people do.
-/

namespace StarFreight

open Decimal

/-- The codes of reasons. -/
inductive ReasonCode where
  | invalidName
  | ambiguousName
  /-- A name or number fits no place. -/
  | unknownName
  /-- An end lies outside high security under the safest profile. -/
  | endpointNotHighSec
  /-- An end lies outside the places that the caller allows. -/
  | endpointNotAllowed
  /-- The policy refuses the class of an end. -/
  | securityClassDisallowed
  /-- A hard rule forbids an end. -/
  | endpointHardBlocked
  | graphNotLoaded
  | graphMissingEndpoint
  /-- Only hard rules stand in the way. -/
  | blockedByAvoidanceRules
  /-- There is no way. -/
  | noRoute
  /-- The oracle did not answer with a path. -/
  | oracleFailed
  | oracleNoPath
  | oraclePathRejected
  /-- The tables could not be read or written. -/
  | storeUnavailable
deriving DecidableEq, Repr

namespace ReasonCode

/-- Every code. -/
def all : List ReasonCode :=
  [ .invalidName, .ambiguousName, .unknownName, .endpointNotHighSec, .endpointNotAllowed
  , .securityClassDisallowed, .endpointHardBlocked, .graphNotLoaded, .graphMissingEndpoint
  , .blockedByAvoidanceRules, .noRoute, .oracleFailed, .oracleNoPath, .oraclePathRejected
  , .storeUnavailable ]

/-- The text of a code. -/
def label : ReasonCode → String
  | .invalidName => "invalid_name"
  | .ambiguousName => "ambiguous_name"
  | .unknownName => "unknown_name"
  | .endpointNotHighSec => "endpoint_not_high_sec"
  | .endpointNotAllowed => "endpoint_not_allowed"
  | .securityClassDisallowed => "security_class_disallowed"
  | .endpointHardBlocked => "endpoint_hard_blocked"
  | .graphNotLoaded => "graph_not_loaded"
  | .graphMissingEndpoint => "graph_missing_endpoint"
  | .blockedByAvoidanceRules => "blocked_by_avoidance_rules"
  | .noRoute => "no_route"
  | .oracleFailed => "oracle_failed"
  | .oracleNoPath => "oracle_no_path"
  | .oraclePathRejected => "oracle_path_rejected"
  | .storeUnavailable => "store_unavailable"

/-- The code that a text stands for. -/
def ofLabel? (name : String) : Option ReasonCode :=
  all.find? (·.label == name)

end ReasonCode

/-- Why a path given by an oracle is not permitted. -/
inductive Rejection where
  /-- It runs between other systems than asked for. -/
  | wrongEnds (first last origin destination : SystemId)
  /-- It stays where it is for a step. -/
  | repeats
  /-- It visits a system that nobody knows. -/
  | unknownSystem (id : SystemId)
  | refused (name : String) (category : SecurityClass) (phase : Phase)
  /-- It leaves high security where it should not. -/
  | leavesHighSec (name : String)
  | blocked (name : String) (phase : Phase) (rule : Int)
  | blockedLink (source target : String)
deriving DecidableEq, Repr

/-- Why there is no route. -/
inductive FailureCause where
  | emptyName
  | ambiguousName (name : String) (candidates : List String)
  /-- A name fits no place; these are the most similar. -/
  | unknownName (name : String) (suggestions : List String)
  | unknownId (id : Int) (kind : LocationKind)
  /-- An end lies outside high security under the safest profile. -/
  | endNotHighSec (phase : Phase) (name : String) (category : SecurityClass)
  /-- An end lies outside the places that the caller allows. -/
  | endNotAllowed (phase : Phase) (name : String)
  /-- The policy refuses the class of an end. -/
  | endClassRefused (phase : Phase) (category : SecurityClass) (name : String)
  | endBlocked (phase : Phase) (name : String) (rule : Int) (reason : Option String)
  | graphNotReady
  | endNotInGraph
  /-- A place is in a system that nobody knows. -/
  | endUnknown (matched : String) (id : SystemId)
  /-- Only hard rules stand in the way. -/
  | blockedByRules (origin destination : String)
  | noRoute (origin destination : String)
  | oracle (error : OracleError)
  | rejected (why : Rejection)
  | store (error : StoreError)
deriving DecidableEq, Repr

/-- The message of a rejected path. -/
def Rejection.message : Rejection → String
  | .wrongEnds first last origin destination =>
    "oracle path runs " ++ integerText first ++ " -> " ++ integerText last ++ ", expected "
      ++ integerText origin ++ " -> " ++ integerText destination
  | .repeats => "oracle path repeats a system consecutively"
  | .unknownSystem id => "oracle path visits unknown system " ++ integerText id
  | .refused name category phase =>
    "oracle path enters " ++ name ++ " (" ++ category.label ++ ") during " ++ phase.label
      ++ ", which policy forbids"
  | .leavesHighSec name => "oracle path leaves high-sec at " ++ name
  | .blocked name phase rule =>
    "oracle path enters " ++ name ++ " during " ++ phase.label ++ ", blocked by avoidance rule "
      ++ integerText rule
  | .blockedLink source target =>
    "oracle path uses blocked connection " ++ source ++ " -> " ++ target

namespace FailureCause

/-- The reason code of a cause. -/
def reason : FailureCause → ReasonCode
  | .emptyName => .invalidName
  | .ambiguousName .. => .ambiguousName
  | .unknownName .. => .unknownName
  | .unknownId .. => .unknownName
  | .endNotHighSec .. => .endpointNotHighSec
  | .endNotAllowed .. => .endpointNotAllowed
  | .endClassRefused .. => .securityClassDisallowed
  | .endBlocked .. => .endpointHardBlocked
  | .graphNotReady => .graphNotLoaded
  | .endNotInGraph => .graphMissingEndpoint
  | .endUnknown .. => .graphMissingEndpoint
  | .blockedByRules .. => .blockedByAvoidanceRules
  | .noRoute .. => .noRoute
  | .oracle .emptyPath => .oracleNoPath
  | .oracle _ => .oracleFailed
  | .rejected _ => .oraclePathRejected
  | .store _ => .storeUnavailable

/-- The message of a cause. -/
def message : FailureCause → String
  | .emptyName => "location name is empty"
  | .ambiguousName name candidates =>
    "location name '" ++ name ++ "' is ambiguous: " ++ String.intercalate ", " candidates
  | .unknownName name _ => "unknown location name: " ++ name
  | .unknownId id kind => "unknown " ++ kind.label ++ " id " ++ integerText id
  | .endNotHighSec phase name category =>
    phase.label ++ " system " ++ name ++ " is " ++ category.label
      ++ "; the safest profile requires high-sec endpoints"
  | .endNotAllowed phase name =>
    phase.label ++ " at " ++ name ++ " is outside the allowed locations"
  | .endClassRefused phase category name =>
    phase.label ++ " in " ++ category.label ++ " space (" ++ name ++ ") is not allowed"
  | .endBlocked phase name rule reason =>
    phase.label ++ " at " ++ name ++ " is blocked by avoidance rule " ++ integerText rule
      ++ " (" ++ reason.getD "no reason given" ++ ")"
  | .graphNotReady => "route graph is not loaded; try again shortly"
  | .endNotInGraph => "route graph does not contain one or both endpoints"
  | .endUnknown matched id =>
    "'" ++ matched ++ "' resolves to system " ++ integerText id
      ++ " which has no graph or reference data"
  | .blockedByRules origin destination =>
    "every route from " ++ origin ++ " to " ++ destination ++ " is blocked by avoidance rules"
  | .noRoute origin destination => "no viable route from " ++ origin ++ " to " ++ destination
  | .oracle error => error.message
  | .rejected why => why.message
  | .store error => error.message

/-- The names that a caller may have meant. -/
def candidates : FailureCause → List String
  | .ambiguousName _ candidates => candidates
  | .unknownName _ suggestions => suggestions
  | _ => []

end FailureCause

/-- A failure: its cause, and the circumstances as far as they were known. -/
structure Failure where
  cause : FailureCause
  origin : Option SystemId := none
  destination : Option SystemId := none
  /-- How many hard and how many soft rules there were. -/
  ruleCounts : Option (Nat × Nat) := none
  health : Option Health := none
deriving DecidableEq, Repr

/-- A failure of the tables as a failure to plan. -/
def Failure.ofStore (error : StoreError) : Failure :=
  { cause := .store error }

end StarFreight
