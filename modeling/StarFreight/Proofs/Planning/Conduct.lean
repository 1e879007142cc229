import StarFreight.Proofs.Planning.Outcome
import StarFreight.Proofs.Planning.Repair
import StarFreight.Proofs.Store.Cache
/-!
# Planning — how a planner conducts itself

What planning does to the world. A survey changes the cache alone
(`survey_snd`); what comes of a request is told by what was prepared for it
(`planRoute_eq`), and how the oracle's part of it goes is told once (`Asking`).
So the oracle is asked at most once, and only about a request that was prepared
and that the graph cannot answer; nothing is written but a backfill that
succeeds; and one that fails is as if it had not been tried.
-/

namespace StarFreight

namespace World

/-- A world after a call to the oracle. -/
def asked (w : World) (call : OracleCall) : World :=
  { w with calls := call :: w.calls }

/-- Where a backfill in a world comes from, and when. -/
def provenance (w : World) : Provenance :=
  { source := oracleSource, stamp := toString w.now }

/-- A world after a backfill that succeeded. -/
def backfilled (w : World) (db : Database) (report : BackfillReport) : World :=
  { w with database := some db
           cache := if report.isEmpty then w.cache else w.cache.invalidate }

end World

namespace Planner

variable {planner : Planner} {request : RouteRequest} {w after : World} {p : Prepared}
  {oracle : Oracle} {path : List SystemId} {systems : List StarSystem}
  {result : Except Failure Route × World}

/-! ## The course of a plan -/

/-- What is prepared for a request from what a survey sees, and the world after the
survey. -/
def prepared (planner : Planner) (request : RouteRequest) (w : World) :
    Except Failure Prepared × World :=
  ((planner.survey w).1.mapError .ofStore >>= fun seen => prepare seen.1 seen.2 request,
    (planner.survey w).2)

/-- A survey changes the cache and nothing else. -/
theorem survey_snd (planner : Planner) (w : World) : (planner.survey w).2 =
    { w with cache := (w.cache.snapshot planner.graph w.now w.database).2 } := by
  unfold survey
  generalize w.cache.snapshot planner.graph w.now w.database = found
  obtain ⟨_ | _, cache⟩ := found <;> rfl

@[simp] theorem database_survey : (planner.survey w).2.database = w.database := by
  rw [survey_snd]

@[simp] theorem calls_survey : (planner.survey w).2.calls = w.calls := by
  rw [survey_snd]

@[simp] theorem now_survey : (planner.survey w).2.now = w.now := by
  rw [survey_snd]

/-- What is prepared was prepared from what the survey has seen. -/
theorem prepared_eq_ok (h : (planner.prepared request w).1 = .ok p) :
    ∃ database snapshot, (planner.survey w).1 = .ok (database, snapshot) ∧
      prepare database snapshot request = .ok p := by
  obtain ⟨⟨database, snapshot⟩, hseen, hprepare⟩ := bind_eq_ok.mp h
  exact ⟨database, snapshot, mapError_eq_ok.mp hseen, hprepare⟩

/-- A request is prepared from the database of the world. -/
theorem database_of_prepared (h : (planner.prepared request w).1 = .ok p) :
    w.database = some p.database := by
  obtain ⟨database, snapshot, hseen, hprepare⟩ := prepared_eq_ok h
  rw [(of_prepare hprepare).database_eq]
  exact (survey_eq_ok (Prod.ext hseen rfl)).1

/-- A request is prepared from the snapshot that the cache holds from then on. -/
theorem slot_of_prepared (h : (planner.prepared request w).1 = .ok p) :
    (planner.survey w).2.cache.slot.map (·.snapshot) = some p.snapshot := by
  obtain ⟨database, snapshot, hseen, hprepare⟩ := prepared_eq_ok h
  rw [(of_prepare hprepare).snapshot_eq, survey_snd]
  exact GraphCache.slot_of_snapshot (Prod.ext (survey_eq_ok (Prod.ext hseen rfl)).2 rfl)

/-- What comes of a request once it is prepared. -/
def proceed (planner : Planner) (p : Prepared) (w : World) : Except Failure Route × World :=
  if p.isLocal then (p.routeLocally, w)
  else
    match planner.oracle with
    | some oracle => planner.routeByOracle oracle p w
    | none =>
      (.error (p.graphFailure
        (if p.snapshot.health.ready then .endNotInGraph else .graphNotReady)), w)

/-- **What comes of a request is told by what was prepared for it.** -/
theorem planRoute_eq (planner : Planner) (request : RouteRequest) (w : World) :
    planner.planRoute request w =
      match planner.prepared request w with
      | (.error failure, after) => (.error failure, after)
      | (.ok p, after) => planner.proceed p after := by
  unfold planRoute prepared
  obtain ⟨e | ⟨database, snapshot⟩, after⟩ := planner.survey w
  · rfl
  · simp only [Except.mapError, bind, Except.bind]
    cases prepare database snapshot request <;> rfl

/-- How the oracle's part of a plan can go. -/
inductive Asking (planner : Planner) (oracle : Oracle) (p : Prepared) (w : World) :
    Except Failure Route × World → Prop
  /-- What to keep away from cannot be had. -/
  | unasked {e : StoreError} (hcall : p.oracleCall = .error e) :
      Asking planner oracle p w (.error (.ofStore e), w)
  | unanswered {call : OracleCall} {e : OracleError} (hcall : p.oracleCall = .ok call)
      (hanswer : oracle w.calls.length call = .error e) :
      Asking planner oracle p w (.error (p.failure (.oracle e)), w.asked call)
  | rejected {call : OracleCall} {path : List SystemId} {cause : FailureCause}
      (hcall : p.oracleCall = .ok call) (hanswer : oracle w.calls.length call = .ok path) :
      Asking planner oracle p w (.error (p.failure cause), w.asked call)
  /-- The path is accepted, and writing it is not wanted or fails. -/
  | unwritten {call : OracleCall} {path : List SystemId} {systems : List StarSystem}
      (hcall : p.oracleCall = .ok call) (hanswer : oracle w.calls.length call = .ok path)
      (hpath : p.judge.Accepts p.origin.system.id p.destination.system.id path systems) :
      Asking planner oracle p w (.ok (p.route systems .oracle 0 none), w.asked call)
  | written {call : OracleCall} {path : List SystemId} {systems : List StarSystem}
      {db : Database} {report : BackfillReport} (hcall : p.oracleCall = .ok call)
      (hanswer : oracle w.calls.length call = .ok path)
      (hpath : p.judge.Accepts p.origin.system.id p.destination.system.id path systems)
      (hwrite : p.database.backfillPath w.provenance path = .ok (db, report)) :
      Asking planner oracle p w
        (.ok (p.route systems .oracle 0 (some report)), (w.asked call).backfilled db report)

/-- What is written back of a path. -/
theorem writeBack_eq (planner : Planner) (p : Prepared) (path : List SystemId) (w : World) :
    planner.writeBack p path w =
      if backfillEnabled planner.backfill planner.environment p.database then
        match p.database.backfillPath w.provenance path with
        | .error _ => (none, w)
        | .ok (db, report) => (some report, w.backfilled db report)
      else (none, w) :=
  rfl

/-- **The oracle's part of a plan goes in no other way.** -/
theorem asking_routeByOracle (planner : Planner) (oracle : Oracle) (p : Prepared) (w : World) :
    Asking planner oracle p w (planner.routeByOracle oracle p w) := by
  unfold routeByOracle
  cases hcall : p.oracleCall with
  | error e => exact .unasked hcall
  | ok call =>
    obtain ⟨horigin, hdestination⟩ := Prepared.ends_of_oracleCall hcall
    dsimp only
    cases hanswer : oracle w.calls.length call with
    | error e => exact .unanswered hcall hanswer
    | ok path =>
      simp only [horigin, hdestination]
      split
      · exact .rejected hcall hanswer
      · next systems hvalid =>
        have hpath := PathJudge.validate_eq_ok_iff.mp hvalid
        rw [writeBack_eq]
        split
        · split
          · exact .unwritten hcall hanswer hpath
          · next hwrite => exact .written hcall hanswer hpath hwrite
        · exact .unwritten hcall hanswer hpath

/-- A question that can be put is put once. -/
theorem Asking.calls_eq (h : Asking planner oracle p w result) {call : OracleCall}
    (hcall : p.oracleCall = .ok call) : result.2.calls = call :: w.calls := by
  cases h with
  | unasked hnone => cases hcall.symm.trans hnone
  | unanswered hasked | rejected hasked | unwritten hasked | written hasked =>
    obtain rfl := Except.ok.inj (hcall.symm.trans hasked)
    rfl

/-- Two oracles that say the same when they are asked lead to the same. -/
theorem routeByOracle_congr {other : Oracle} {asked : Option Oracle}
    (h : ∀ call, (planner.routeByOracle oracle p w).2.calls = call :: w.calls →
      other w.calls.length call = oracle w.calls.length call) :
    { planner with oracle := asked }.routeByOracle other p w =
      planner.routeByOracle oracle p w := by
  cases hcall : p.oracleCall with
  | error e => simp only [routeByOracle, hcall]
  | ok call =>
    have hsame := h call ((asking_routeByOracle planner oracle p w).calls_eq hcall)
    simp only [routeByOracle, hcall, hsame]
    rfl

/-- **A request ends with the survey or with the oracle's part of it.** -/
theorem planRoute_cases (planner : Planner) (request : RouteRequest) (w : World) :
    (planner.planRoute request w).2 = (planner.survey w).2 ∨
      ∃ oracle p, planner.oracle = some oracle ∧ (planner.prepared request w).1 = .ok p ∧
        p.isLocal = false ∧
        Asking planner oracle p (planner.survey w).2 (planner.planRoute request w) := by
  have hworld : (planner.prepared request w).2 = (planner.survey w).2 := rfl
  rw [planRoute_eq]
  generalize planner.prepared request w = found at hworld ⊢
  obtain ⟨_ | p, after⟩ := found
  · exact .inl hworld
  · obtain rfl : after = (planner.survey w).2 := hworld
    dsimp only [proceed]
    cases hlocal : p.isLocal with
    | true => exact .inl rfl
    | false =>
      cases horacle : planner.oracle with
      | none => exact .inl rfl
      | some oracle =>
        refine .inr ⟨oracle, p, rfl, rfl, hlocal, ?_⟩
        exact asking_routeByOracle planner oracle p _

/-- What is settled before the oracle is asked. -/
structure Asks (planner : Planner) (request : RouteRequest) (w : World) (p : Prepared)
    (call : OracleCall) : Prop where
  /-- Both ends are resolved, and rules and policy are loaded. -/
  surveyed : ∃ database snapshot, (planner.survey w).1 = .ok (database, snapshot) ∧
    p.Of database snapshot request
  origin : p.Accepts p.origin
  destination : p.Accepts p.destination
  /-- The graph is not to be trusted, or lacks an end. -/
  remote : p.isLocal = false
  call_eq : p.oracleCall = .ok call

/-- A request that the oracle answers with a path that is accepted. -/
structure Answered (planner : Planner) (request : RouteRequest) (w : World) (p : Prepared)
    (path : List SystemId) (systems : List StarSystem) : Prop where
  prepared : (planner.prepared request w).1 = .ok p
  remote : p.isLocal = false
  answer : ∃ oracle call, planner.oracle = some oracle ∧ p.oracleCall = .ok call ∧
    oracle w.calls.length call = .ok path
  accepted : p.judge.Accepts p.origin.system.id p.destination.system.id path systems

/-- An accepted answer becomes the route, and is written back. -/
theorem planRoute_of_answered (h : planner.Answered request w p path systems) :
    ∃ call, planner.planRoute request w =
      let (report, after) := planner.writeBack p path ((planner.survey w).2.asked call)
      (.ok (p.route systems .oracle 0 report), after) := by
  obtain ⟨oracle, call, horacle, hcall, hanswer⟩ := h.answer
  obtain ⟨horigin, hdestination⟩ := Prepared.ends_of_oracleCall hcall
  have hprepared : planner.prepared request w = (.ok p, (planner.survey w).2) :=
    Prod.ext h.prepared rfl
  have hvalid : (⟨p.database, p.context⟩ : PathJudge).validate p.origin.system.id
      p.destination.system.id path = .ok systems :=
    PathJudge.validate_eq_ok_iff.mpr h.accepted
  refine ⟨call, ?_⟩
  rw [planRoute_eq, hprepared]
  simp only [proceed, h.remote, Bool.false_eq_true, if_false, horacle, routeByOracle, hcall,
    calls_survey, hanswer, horigin, hdestination, hvalid, World.asked]

/-! ## Discipline -/

/-- The oracle is asked at most once, and about a request that was prepared. -/
theorem calls_planRoute (planner : Planner) (request : RouteRequest) (w : World) :
    (planner.planRoute request w).2.calls = w.calls ∨ ∃ p call, planner.Asks request w p call ∧
      (planner.planRoute request w).2.calls = call :: w.calls := by
  rcases planner.planRoute_cases request w with hworld | ⟨oracle, p, -, hprepared, hremote, hasking⟩
  · exact .inl (by rw [hworld, calls_survey])
  · have hasks : ∀ call, p.oracleCall = .ok call → planner.Asks request w p call := by
      intro call hcall
      obtain ⟨database, snapshot, hseen, hprepare⟩ := prepared_eq_ok hprepared
      obtain ⟨horigin, hdestination⟩ := accepts_of_prepare hprepare
      exact ⟨⟨database, snapshot, hseen, of_prepare hprepare⟩, horigin, hdestination, hremote,
        hcall⟩
    generalize planner.planRoute request w = planned at hasking ⊢
    cases hasking with
    | unasked => exact .inl calls_survey
    | unanswered hcall | rejected hcall | unwritten hcall | written hcall =>
      exact .inr ⟨p, _, hasks _ hcall, congrArg _ calls_survey⟩

/-- Where the graph cannot answer, a question that can be put to an oracle is put. -/
theorem calls_of_remote {call : OracleCall} (horacle : planner.oracle = some oracle)
    (hprepared : (planner.prepared request w).1 = .ok p) (hremote : p.isLocal = false)
    (hcall : p.oracleCall = .ok call) :
    (planner.planRoute request w).2.calls = call :: w.calls := by
  have hasks := (asking_routeByOracle planner oracle p (planner.survey w).2).calls_eq hcall
  have hfound : planner.prepared request w = (.ok p, (planner.survey w).2) :=
    Prod.ext hprepared rfl
  rw [calls_survey] at hasks
  rw [planRoute_eq, hfound, ← hasks]
  simp only [proceed, hremote, Bool.false_eq_true, if_false, horacle]

/-- Two oracles that say the same when they are asked lead to the same. -/
theorem planRoute_congr {other : Oracle} (horacle : planner.oracle = some oracle)
    (hsame : ∀ call, (planner.planRoute request w).2.calls = call :: w.calls →
      other w.calls.length call = oracle w.calls.length call) :
    { planner with oracle := some other }.planRoute request w = planner.planRoute request w := by
  have hcalls : (planner.prepared request w).2.calls = w.calls := calls_survey
  have hother : { planner with oracle := some other }.prepared request w =
      planner.prepared request w :=
    rfl
  rw [planRoute_eq] at hsame ⊢
  rw [planRoute_eq, hother]
  simp only [proceed, horacle] at hsame ⊢
  generalize planner.prepared request w = found at hcalls hsame ⊢
  obtain ⟨_ | p, after⟩ := found
  · rfl
  · cases hlocal : p.isLocal with
    | true => simp [hlocal]
    | false =>
      simp only [hlocal, Bool.false_eq_true, if_false, ← hcalls] at hsame ⊢
      exact routeByOracle_congr hsame

/-- The tables are kept, unless a route tells of a backfill. -/
theorem database_planRoute (planner : Planner) (request : RouteRequest) (w : World) :
    (planner.planRoute request w).2.database = w.database ∨
      ∃ route report, (planner.planRoute request w).1 = .ok route ∧ route.source = .oracle ∧
        route.backfill = some report ∧ report.isEmpty = false := by
  rcases planner.planRoute_cases request w with hworld | ⟨oracle, p, -, hprepared, -, hasking⟩
  · exact .inl (by rw [hworld, database_survey])
  · generalize planner.planRoute request w = planned at hasking ⊢
    cases hasking with
    | unasked | unanswered | rejected | unwritten => exact .inl database_survey
    | @written call path systems db report _ _ _ hwrite =>
      cases hempty : report.isEmpty with
      | false => exact .inr ⟨_, report, rfl, rfl, rfl, hempty⟩
      | true =>
        -- a report that counts nothing stands for the database as it was
        obtain rfl := Database.backfillPath_of_isEmpty hwrite hempty
        exact .inl (database_of_prepared hprepared).symm

/-- A backfill that fails is as if it had not been tried. -/
theorem planRoute_of_unwritten {e : StoreError}
    (hanswered : planner.Answered request w p path systems)
    (henabled : backfillEnabled planner.backfill planner.environment p.database = true)
    (hfailed : p.database.backfillPath w.provenance path = .error e) :
    (planner.planRoute request w).1 = .ok (p.route systems .oracle 0 none) ∧
      (planner.planRoute request w).2.database = w.database ∧
      (planner.planRoute request w).2.cache.slot.map (·.snapshot) = some p.snapshot := by
  obtain ⟨call, hplan⟩ := planRoute_of_answered hanswered
  have hprovenance : ((planner.survey w).2.asked call).provenance = w.provenance := by
    simp only [World.provenance, World.asked, now_survey]
  rw [hplan, writeBack_eq, if_pos henabled, hprovenance, hfailed]
  exact ⟨rfl, database_survey, slot_of_prepared hanswered.prepared⟩

/-- What may come of a request, and of the world with it. -/
structure Conduct (planner : Planner) (request : RouteRequest) (w : World)
    (result : Except Failure Route) (after : World) : Prop where
  /-- The oracle is asked at most once, and only about a request that was prepared
  and that the graph cannot answer. -/
  asks : after.calls = w.calls ∨
    ∃ p call, planner.Asks request w p call ∧ after.calls = call :: w.calls
  /-- It is heard on nothing but what it was asked. -/
  hears : ∀ oracle other, planner.oracle = some oracle →
    (∀ call, after.calls = call :: w.calls →
      other w.calls.length call = oracle w.calls.length call) →
    { planner with oracle := some other }.planRoute request w = (result, after)
  /-- Every table is kept, but for a backfill that the route tells of. -/
  keeps : after.database = w.database ∨
    ∃ route report, result = .ok route ∧ route.source = .oracle ∧
      route.backfill = some report ∧ report.isEmpty = false
  /-- A backfill that fails takes neither the route away nor the snapshot, and leaves
  nothing behind. -/
  recovers : ∀ p path systems e, planner.Answered request w p path systems →
    backfillEnabled planner.backfill planner.environment p.database = true →
    p.database.backfillPath w.provenance path = .error e →
    result = .ok (p.route systems .oracle 0 none) ∧ after.database = w.database ∧
      after.cache.slot.map (·.snapshot) = some p.snapshot

/-- **How a planner conducts itself**, in every world and with every oracle. -/
theorem planRoute_conduct (planner : Planner) (request : RouteRequest) (w : World) :
    planner.Conduct request w (planner.planRoute request w).1
      (planner.planRoute request w).2 where
  asks := calls_planRoute planner request w
  hears _ _ horacle hsame := planRoute_congr horacle hsame
  keeps := database_planRoute planner request w
  recovers _ _ _ _ hanswered henabled hfailed :=
    planRoute_of_unwritten hanswered henabled hfailed

end Planner

/-! ## A world to write into -/

/-- Tables of three systems of Pochven, none of which the graph has. -/
def reefTables (audit : Option Table) : Database where
  mapSystems := some systemsTable
  mapSystemGates := some TableName.mapSystemGates.emptyTable
  referenceSystems := some
    { systemsTable with
      rows :=
        [ [.integer 1, .text "Atoll", .real 0, .integer 10, .integer 7]
        , [.integer 2, .text "Bank", .real 0, .integer 10, .integer 7]
        , [.integer 3, .text "Cay", .real 0, .integer 10, .integer 7] ] }
  referenceRegions := some
    { TableName.referenceRegions.emptyTable with rows := [[.integer 7, .text "Pochven"]] }
  backfillAudit := audit

/-- A world with these tables, and nothing in its cache. -/
def reef (audit : Option Table) : World where
  database := some (reefTables audit)

/-- A planner whose oracle comes back to the first system on its way to the
second. -/
def reefPlanner : Planner where
  graph := { path := "reef.db", demands := { minNodes := 1, critical := [] } }
  backfill := .enabled
  oracle := some fun _ _ => .ok [1, 3, 1, 2]

/-- A request from the first system to the second. -/
def reefRequest : RouteRequest where
  origin := .number 1 .system
  destination := .number 2 .system

namespace Planner

/-- Without a table to record it in, a backfill fails on the first row that it
writes. -/
theorem planRoute_conduct_reef :
    ∃ (p : Prepared) (systems : List StarSystem),
      (reefPlanner.planRoute reefRequest (reef none)).1 =
        .ok (p.route systems .oracle 0 none) ∧
      (reefPlanner.planRoute reefRequest (reef none)).2.database = some (reefTables none) ∧
      (reefPlanner.planRoute reefRequest (reef none)).2.cache.slot.map (·.snapshot) =
        some p.snapshot := by
  have hfacts : ((reefPlanner.prepared reefRequest (reef none)).1.toOption.map fun p =>
      (p.isLocal, p.oracleCall.toOption.isSome,
        (p.judge.validate p.origin.system.id p.destination.system.id [1, 3, 1, 2]).toOption.isSome,
        (p.database.backfillPath (reef none).provenance [1, 3, 1, 2]).toOption.isSome)) =
      some (false, true, true, false) := by
    decide +kernel
  obtain ⟨p, hprepared, hfacts⟩ := Option.map_eq_some_iff.mp hfacts
  obtain ⟨hremote, hasked, hvalid, hfailed⟩ : _ ∧ _ ∧ _ ∧ _ := by
    simpa only [Prod.mk.injEq] using hfacts
  obtain ⟨call, hcall⟩ := Option.isSome_iff_exists.mp hasked
  obtain ⟨systems, hsystems⟩ := Option.isSome_iff_exists.mp hvalid
  rw [toOption_eq_some_iff] at hprepared hcall hsystems
  cases hwrite : p.database.backfillPath (reef none).provenance [1, 3, 1, 2] with
  | ok written =>
    rw [hwrite] at hfailed
    cases hfailed
  | error e =>
    exact ⟨p, systems,
      (planRoute_conduct reefPlanner reefRequest (reef none)).recovers p [1, 3, 1, 2] systems e
        ⟨hprepared, hremote, ⟨_, call, rfl, hcall, rfl⟩, PathJudge.validate_eq_ok_iff.mp hsystems⟩
        rfl hwrite⟩

end Planner

end StarFreight
