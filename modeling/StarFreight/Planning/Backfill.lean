import StarFreight.Store.Settings
import StarFreight.Store.Systems
/-!
# Planning — backfill

A path that was accepted from an oracle can be written into the graph, so that
the next call finds it there: systems that the graph lacks are copied from
the table of all systems, and every step becomes a gate in both directions.
Each row written is recorded in the audit table. All of it is written or, when
anything fails, none.
-/

namespace StarFreight

open Decimal

/-- Whether accepted paths are written into the graph. -/
inductive BackfillMode where
  /-- Outside production; in production as the stored flag says. -/
  | auto
  | enabled
  | disabled
deriving DecidableEq, Repr

namespace BackfillMode

/-- The name of a mode. -/
def label : BackfillMode → String
  | .auto => "auto"
  | .enabled => "on"
  | .disabled => "off"

/-- The mode that a text names, or what is wrong with it. Case and the blanks
around it do not count. -/
def parse (text : String) : Except String BackfillMode :=
  let name := Text.asciiLower (Text.trim text)
  if name = "auto" then .ok .auto
  else if name ∈ ["on", "true", "enabled", "1"] then .ok .enabled
  else if name ∈ ["off", "false", "disabled", "0"] then .ok .disabled
  else .error ("unknown backfill mode '" ++ name ++ "'")

end BackfillMode

/-- Whether an environment is one of production. -/
def isProduction (environment : String) : Bool :=
  ["production", "prod", "live"].contains (Text.asciiLower (Text.trim environment))

/-- Whether accepted paths are written into the graph for a call. A flag that
cannot be read counts as unset. -/
def backfillEnabled (mode : BackfillMode) (environment : String) (db : Database) : Bool :=
  match mode with
  | .enabled => true
  | .disabled => false
  | .auto =>
    if isProduction environment then
      match db.backfillFlag? with
      | .ok flag => flag.getD false
      | .error _ => false
    else true

/-- What a backfill wrote. -/
structure BackfillReport where
  nodesInserted : Nat := 0
  /-- How many connections were added, in one direction at least. -/
  edgesInserted : Nat := 0
  /-- The systems that nobody knows, as often as the path visits them; their
  connections are not added. -/
  skippedSystems : List SystemId := []
deriving DecidableEq, Repr

/-- Whether nothing was written. -/
def BackfillReport.isEmpty (report : BackfillReport) : Bool :=
  report.nodesInserted == 0 && report.edgesInserted == 0

/-- Where a backfill comes from and when. -/
structure Provenance where
  /-- Who gave the path. -/
  source : String
  stamp : String
deriving DecidableEq, Repr

/-- The source of paths that come from the oracle. -/
def oracleSource : String := "oracle"

namespace Database

/-- Records what was written. -/
def audit (db : Database) (prov : Provenance) (kind key : String) (detail : Cell) :
    Except StoreError Database :=
  db.insert .backfillAudit
    [ ("entity_type", .text kind), ("entity_key", .text key), ("source", .text prov.source)
    , ("detail", detail), ("created_at", .text prov.stamp) ]

/-- Whether the graph has a system with a number. -/
def hasMapSystem (db : Database) (id : SystemId) : Except StoreError Bool := do
  let records ← db.select
    { source := .mapSystems, columns := [], conditions := [.isInteger "system_id" id] }
  return !records.isEmpty

/-- Adds a system to the graph, and tells whether it came in. -/
def addMapSystem (db : Database) (s : StarSystem) : Except StoreError (Database × Bool) :=
  db.add .mapSystems
    [ ("system_id", .integer s.id), ("name", .text s.name), ("security", .real s.security)
    , ("constellation_id", .integer s.constellation), ("region_id", .integer s.region) ]

/-- Adds a gate in one direction, and tells whether it came in. -/
def addGate (db : Database) (a b : SystemId) : Except StoreError (Database × Bool) :=
  db.add .mapSystemGates [("from_system_id", .integer a), ("to_system_id", .integer b)]

/-- Sees to it that the graph has a system of a path, if anybody knows it. -/
def backfillSystem (prov : Provenance) (state : Database × BackfillReport) (id : SystemId) :
    Except StoreError (Database × BackfillReport) := do
  let (db, report) := state
  if ← db.hasMapSystem id then return (db, report)
  match ← db.referenceSystem? id with
  | none => return (db, { report with skippedSystems := report.skippedSystems ++ [id] })
  | some s =>
    let (db, added) ← db.addMapSystem s
    if added then
      let db ← db.audit prov "system" (integerText id) (.text s.name)
      return (db, { report with nodesInserted := report.nodesInserted + 1 })
    else return (db, report)

/-- Sees to it that the graph has the gates of a step between systems that it
has. -/
def backfillStep (prov : Provenance) (state : Database × BackfillReport)
    (step : SystemId × SystemId) : Except StoreError (Database × BackfillReport) := do
  let (db, report) := state
  let (a, b) := step
  if report.skippedSystems.contains a || report.skippedSystems.contains b then return (db, report)
  let (db, there) ← db.addGate a b
  let (db, back) ← db.addGate b a
  if there || back then
    let key := integerText (min a b) ++ "-" ++ integerText (max a b)
    let db ← db.audit prov "gate" key .null
    return (db, { report with edgesInserted := report.edgesInserted + 1 })
  else return (db, report)

/-- Writes a path into the graph: first its systems, then its steps. -/
def backfillPath (db : Database) (prov : Provenance) (path : List SystemId) :
    Except StoreError (Database × BackfillReport) := do
  let state ← path.foldlM (backfillSystem prov) (db, {})
  (path.zip path.tail).foldlM (backfillStep prov) state

end Database

end StarFreight
