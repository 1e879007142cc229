import StarFreight.Planning.Plan
import StarFreight.Proofs.Planning.Judgement
import StarFreight.Proofs.Planning.Preparation
/-!
# Planning — where a route comes from

A planner surveys the world, prepares the request, and has a route from the
graph or from the oracle (`planRoute_eq_ok`). This file opens each of these
steps once: what a survey has seen (`survey_eq_ok`), that the graph's route is
the one a search finds (`routeLocally_eq_ok`), and that the oracle's is one
that the judge accepts (`routeByOracle_eq_ok`).
-/

namespace StarFreight

/-- The judge that a prepared request holds paths against. -/
def Prepared.judge (p : Prepared) : PathJudge :=
  { database := p.database, context := p.context }

theorem Prepared.isLocal_iff {p : Prepared} : p.isLocal = true ↔ p.snapshot.health.ready = true ∧
    p.snapshot.contains p.origin.system.id = true ∧
    p.snapshot.contains p.destination.system.id = true := by
  simp only [isLocal, Bool.and_eq_true, and_assoc]

/-- The route that the graph gives is the one that the search finds. -/
theorem Prepared.routeLocally_eq_ok {p : Prepared} {route : Route} :
    p.routeLocally = .ok route ↔
      ∃ found, p.context.findRoute p.origin.system.id p.destination.system.id = some found ∧
        route = p.route (found.path.filterMap p.snapshot.system?) .localGraph found.excluded
          none := by
  unfold routeLocally
  cases p.context.findRoute p.origin.system.id p.destination.system.id with
  | none => simp
  | some found => simp [eq_comm]

/-- The oracle is asked for a path between the two ends. -/
theorem Prepared.ends_of_oracleCall {p : Prepared} {call : OracleCall}
    (h : p.oracleCall = .ok call) :
    call.origin = p.origin.system.id ∧ call.destination = p.destination.system.id := by
  obtain ⟨avoid, -, h⟩ := bind_eq_ok.mp h
  obtain rfl := pure_eq_ok.mp h
  exact ⟨rfl, rfl⟩

namespace Planner

variable {planner : Planner} {request : RouteRequest} {w after : World} {database : Database}
  {snapshot : Snapshot} {p : Prepared} {oracle : Oracle} {route : Route}

/-- A survey sees the database and the snapshot that the cache gives. -/
theorem survey_eq_ok (h : planner.survey w = (.ok (database, snapshot), after)) :
    w.database = some database ∧
      (w.cache.snapshot planner.graph w.now w.database).1 = .ok snapshot := by
  unfold survey at h
  generalize w.cache.snapshot planner.graph w.now w.database = found at h ⊢
  obtain ⟨result, cache⟩ := found
  cases result with
  | error e => cases h
  | ok seen =>
    simp only [Prod.mk.injEq, GraphSettings.connect] at h
    cases hdatabase : w.database with
    | none => simp [hdatabase, Except.map] at h
    | some tables =>
      simp only [hdatabase, Except.map, Except.ok.injEq, Prod.mk.injEq] at h
      obtain ⟨⟨rfl, rfl⟩, -⟩ := h
      exact ⟨rfl, rfl⟩

/-- The oracle's route runs along a path that it gave and that the judge
accepts. -/
theorem routeByOracle_eq_ok (h : (planner.routeByOracle oracle p w).1 = .ok route) :
    ∃ call path systems report, p.oracleCall = .ok call ∧
      oracle w.calls.length call = .ok path ∧
      p.judge.Accepts p.origin.system.id p.destination.system.id path systems ∧
      route = p.route systems .oracle 0 report := by
  unfold routeByOracle at h
  cases hcall : p.oracleCall with
  | error e => simp [hcall] at h
  | ok call =>
    obtain ⟨horigin, hdestination⟩ := Prepared.ends_of_oracleCall hcall
    cases hanswer : oracle w.calls.length call with
    | error e => simp [hcall, hanswer] at h
    | ok path =>
      simp only [hcall, hanswer, horigin, hdestination] at h
      split at h
      · cases h
      · next systems hvalid =>
        refine ⟨call, path, systems, _, rfl, hanswer, ?_, (Except.ok.inj h).symm⟩
        exact PathJudge.validate_eq_ok_iff.mp hvalid

/-- **A planned route is the graph's or the oracle's**, for a request that was
prepared from what was surveyed. -/
theorem planRoute_eq_ok (h : (planner.planRoute request w).1 = .ok route) :
    ∃ database snapshot after p, planner.survey w = (.ok (database, snapshot), after) ∧
      prepare database snapshot request = .ok p ∧
      ((p.isLocal = true ∧ p.routeLocally = .ok route) ∨
        (p.isLocal = false ∧ ∃ oracle, planner.oracle = some oracle ∧
          (planner.routeByOracle oracle p after).1 = .ok route)) := by
  unfold planRoute at h
  generalize hsurvey : planner.survey w = survey at h
  obtain ⟨opened, after⟩ := survey
  cases opened with
  | error e => cases h
  | ok seen =>
    obtain ⟨database, snapshot⟩ := seen
    refine ⟨database, snapshot, after, ?_⟩
    cases hprepare : prepare database snapshot request with
    | error failure => simp [hprepare] at h
    | ok p =>
      refine ⟨p, rfl, rfl, ?_⟩
      simp only [hprepare] at h
      split at h
      · next hlocal => exact .inl ⟨hlocal, h⟩
      · next hlocal =>
        cases horacle : planner.oracle with
        | none => simp [horacle] at h
        | some oracle =>
          simp only [horacle] at h
          exact .inr ⟨Bool.eq_false_iff.mpr hlocal, oracle, rfl, h⟩

/-- **A request that can be routed locally gets what the graph gives.** -/
theorem planRoute_of_isLocal (hsurvey : planner.survey w = (.ok (database, snapshot), after))
    (hprepare : prepare database snapshot request = .ok p) (hlocal : p.isLocal = true) :
    planner.planRoute request w = (p.routeLocally, after) := by
  unfold planRoute
  rw [hsurvey]
  simp only [hprepare, hlocal, if_true]

end Planner

/-! ## A world to plan in -/

/-- Four systems of Pochven; two ways lead from the first to the last, through
systems of one constellation. -/
def lagoonChart : Snapshot :=
  .ofGraph
    (.ofArcs
      [ { id := 1, name := "Alpha", security := 0, constellation := 10, region := 7 }
      , { id := 2, name := "Beta", security := 0, constellation := 20, region := 7 }
      , { id := 3, name := "Gamma", security := 0, constellation := 20, region := 7 }
      , { id := 4, name := "Delta", security := 0, constellation := 30, region := 7 } ]
      [(1, 2), (2, 1), (2, 4), (4, 2), (1, 3), (3, 1), (3, 4), (4, 3)])
    { minNodes := 1, critical := [] } 1

/-- Tables with one rule: a hard one, in every phase, of the given scope. -/
def lagoonTables (scope : String) (target : Int) : Database where
  mapSystems := some systemsTable
  referenceSystems := some systemsTable
  referenceRegions := some
    { TableName.referenceRegions.emptyTable with rows := [[.integer 7, .text "Pochven"]] }
  avoidRules := some
    { TableName.avoidRules.emptyTable with
      rows :=
        [ [ .integer 1, .text scope, .integer target, .null, .integer 1, .integer 1
          , .null, .null, .null, .null, .integer 1 ] ] }

/-- A world with these tables, and the chart in its cache. -/
def lagoon (scope : String) (target : Int) : World where
  database := some (lagoonTables scope target)
  cache := { slot := some { snapshot := lagoonChart, loadedAt := 0 }, generation := 1 }

/-- A planner without an oracle. -/
def lagoonPlanner : Planner where
  graph := { path := "lagoon.db" }

/-- A request from the first system to the last. -/
def lagoonRequest : RouteRequest where
  origin := .number 1 .system
  destination := .number 4 .system

end StarFreight
