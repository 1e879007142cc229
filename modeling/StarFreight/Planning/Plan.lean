import StarFreight.Planning.OraclePath
import StarFreight.Planning.Route
import StarFreight.Store.GraphCache
/-!
# Planning — plans

The planner at work. Once a request is prepared, a graph that can be trusted
and has both ends is searched; otherwise the oracle is asked, its path is
judged, and what the graph lacks of it is written back. The planner acts on a
world of tables, cache and calls made: it asks the oracle at most once, and
writes nothing but a backfill that succeeded.
-/

namespace StarFreight

/-- A planner and what it goes by. -/
structure Planner where
  graph : GraphSettings
  /-- The name of the environment it runs in. -/
  environment : String := "development"
  /-- Whether accepted paths are written into the graph. -/
  backfill : BackfillMode := .auto
  oracle : Option Oracle := none

/-- What a planner acts on. -/
structure World where
  /-- The tables, if the database exists. -/
  database : Option Database := none
  cache : GraphCache := {}
  /-- The calls to the oracle so far, the latest first. -/
  calls : List OracleCall := []
  now : Nat := 0

/-- The failure of a search: only hard rules stand in the way when there is a
route without them. -/
def Prepared.searchFailure (p : Prepared) : Failure :=
  let origin := p.origin.system
  let destination := p.destination.system
  if p.rules.hardCount > 0
      ∧ (p.context.withoutHard.findRoute origin.id destination.id).isSome then
    p.graphFailure (.blockedByRules origin.name destination.name)
  else p.graphFailure (.noRoute origin.name destination.name)

/-- The route that the graph gives. -/
def Prepared.routeLocally (p : Prepared) : Except Failure Route :=
  match p.context.findRoute p.origin.system.id p.destination.system.id with
  | none => .error p.searchFailure
  | some found =>
    .ok (p.route (found.path.filterMap p.snapshot.system?) .localGraph found.excluded none)

/-- Whether the graph can be trusted and has both ends. -/
def Prepared.isLocal (p : Prepared) : Bool :=
  p.snapshot.health.ready && p.snapshot.contains p.origin.system.id
    && p.snapshot.contains p.destination.system.id

/-- The question to put to an oracle: systems to keep away from are those under
hard rules but for the ends. -/
def Prepared.oracleCall (p : Prepared) : Except StoreError OracleCall := do
  let origin := p.origin.system.id
  let destination := p.destination.system.id
  let avoid ← p.database.hardAvoidSystems p.rules
  return {
    origin, destination, flag := p.profile.oracleFlag
    avoid := avoid.filter fun id => id != origin && id != destination }

namespace Planner

/-- Writes an accepted path into the graph if that is wanted: what was written,
and the world after it. -/
def writeBack (planner : Planner) (p : Prepared) (path : List SystemId) (w : World) :
    Option BackfillReport × World :=
  if backfillEnabled planner.backfill planner.environment p.database then
    match p.database.backfillPath { source := oracleSource, stamp := toString w.now } path with
    | .error _ => (none, w)
    | .ok (db, report) =>
      let cache := if report.isEmpty then w.cache else w.cache.invalidate
      (some report, { w with database := some db, cache })
  else (none, w)

/-- The route that an oracle gives. -/
def routeByOracle (planner : Planner) (oracle : Oracle) (p : Prepared) (w : World) :
    Except Failure Route × World :=
  match p.oracleCall with
  | .error e => (.error (.ofStore e), w)
  | .ok call =>
    let asked := { w with calls := call :: w.calls }
    match oracle w.calls.length call with
    | .error e => (.error (p.failure (.oracle e)), asked)
    | .ok path =>
      let judge : PathJudge := { database := p.database, context := p.context }
      match judge.validate call.origin call.destination path with
      | .error cause => (.error (p.failure cause), asked)
      | .ok systems =>
        let (report, after) := planner.writeBack p path asked
        (.ok (p.route systems .oracle 0 report), after)

/-- The snapshot to work with, and the database it was made from. -/
def survey (planner : Planner) (w : World) : Except StoreError (Database × Snapshot) × World :=
  let (found, cache) := w.cache.snapshot planner.graph w.now w.database
  let w := { w with cache }
  match found with
  | .error e => (.error e, w)
  | .ok snapshot => ((planner.graph.connect w.database).map (·, snapshot), w)

/-- Plans a route. -/
def planRoute (planner : Planner) (request : RouteRequest) (w : World) :
    Except Failure Route × World :=
  let (opened, w) := planner.survey w
  match opened with
  | .error e => (.error (.ofStore e), w)
  | .ok (database, snapshot) =>
    match prepare database snapshot request with
    | .error failure => (.error failure, w)
    | .ok p =>
      if p.isLocal then (p.routeLocally, w)
      else
        match planner.oracle with
        | some oracle => planner.routeByOracle oracle p w
        | none =>
          let cause : FailureCause :=
            if p.snapshot.health.ready then .endNotInGraph else .graphNotReady
          (.error (p.graphFailure cause), w)

/-- Resolves a place. -/
def resolve (planner : Planner) (query : LocationQuery) (w : World) :
    Except Failure ResolvedLocation × World :=
  let (opened, w) := planner.survey w
  match opened with
  | .error e => (.error (.ofStore e), w)
  | .ok (database, snapshot) =>
    (({ database, snapshot } : Gazetteer).resolve query |>.mapError fun cause => { cause }, w)

/-- Assesses the graph. -/
def health (planner : Planner) (w : World) : Except StoreError Health × World :=
  let (found, cache) := w.cache.health planner.graph w.now w.database
  (found, { w with cache })

/-- The snapshot to work with. -/
def snapshot (planner : Planner) (w : World) : Except StoreError Snapshot × World :=
  let (found, cache) := w.cache.snapshot planner.graph w.now w.database
  (found, { w with cache })

/-- Loads the graph anew. -/
def load (planner : Planner) (w : World) : Except StoreError Snapshot × World :=
  let (found, cache) := w.cache.load planner.graph w.now w.database
  (found, { w with cache })

/-- Forgets the graph. -/
def invalidate (_ : Planner) (w : World) : World :=
  { w with cache := w.cache.invalidate }

end Planner

end StarFreight
