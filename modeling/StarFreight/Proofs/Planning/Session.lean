import StarFreight.Proofs.Planning.Generation
/-!
# Planning — sessions

A session puts one action after another to a planner, while rows outside the
graph change and time passes. The cache stays current through every action, and
so through a session (`current_act`): whatever a plan writes into the graph, it
forgets the snapshot with it. An answer from a current cache is the answer of a
loading, but for the number of that loading (`act_withTtl`). So how long
snapshots are kept makes no difference to what is answered, nor to what is
written: a session under a cache that never runs out goes as one in which every
use loads the graph anew.
-/

namespace StarFreight

/-- A change to the rows that comes from outside. It leaves the tables of the graph
alone. -/
structure OutsideEdit where
  apply : Database → Database
  mapSystems_eq : ∀ db, (apply db).table? .mapSystems = db.table? .mapSystems
  mapSystemGates_eq : ∀ db, (apply db).table? .mapSystemGates = db.table? .mapSystemGates

/-- A world without its cache. -/
def World.uncached (w : World) : World :=
  { w with cache := {} }

theorem World.uncached_eq_iff {w v : World} : w.uncached = v.uncached ↔
    w.database = v.database ∧ w.calls = v.calls ∧ w.now = v.now := by
  simp [uncached]

namespace Planner

/-! ## Sessions -/

/-- What can happen next. -/
inductive Action where
  | plan (request : RouteRequest)
  | resolve (query : LocationQuery)
  | health
  | snapshot
  | load
  | invalidate
  | edit (change : OutsideEdit)
  /-- Seconds pass. -/
  | wait (seconds : Nat)

/-- What is answered. -/
inductive Answer where
  | route (planned : Except Failure Route)
  | place (found : Except Failure ResolvedLocation)
  | health (found : Except StoreError Health)
  | snapshot (found : Except StoreError Snapshot)
  | done

/-- An answer without the number of a loading. -/
def Answer.unnumbered : Answer → Answer
  | .snapshot found => .snapshot (found.map Snapshot.unnumbered)
  | answer => answer

/-- What a planner answers to an action, and the world after it. -/
def act (planner : Planner) (w : World) : Action → Answer × World
  | .plan request => (planner.planRoute request w).map .route id
  | .resolve query => (planner.resolve query w).map .place id
  | .health => (planner.health w).map .health id
  | .snapshot => (planner.snapshot w).map .snapshot id
  | .load => (planner.load w).map .snapshot id
  | .invalidate => (.done, planner.invalidate w)
  | .edit change => (.done, { w with database := w.database.map change.apply })
  | .wait seconds => (.done, { w with now := w.now + seconds })

/-- The answers of a planner to the actions of a session, and the world after it. -/
def run (planner : Planner) : List Action → World → List Answer × World
  | [], w => ([], w)
  | action :: session, w =>
    let (answer, w) := planner.act w action
    let (answers, w) := planner.run session w
    (answer :: answers, w)

/-- The same planner with another time for which snapshots are kept. -/
def withTtl (planner : Planner) (ttl : Nat) : Planner :=
  { planner with graph := { planner.graph with ttl } }

/-! ## The cache stays current -/

variable {planner : Planner} {request : RouteRequest} {query : LocationQuery} {w v : World}
  {p : Prepared} {result : Except Failure Route × World}

/-- A world whose cache is current for a planner. -/
def Current (planner : Planner) (w : World) : Prop :=
  w.cache.Current planner.graph w.database

theorem current_survey (h : planner.Current w) : planner.Current (planner.survey w).2 := by
  rw [survey_snd]
  exact (GraphCache.snapshot_of_current h).2

/-- **A cache stays current through what comes of an answer**: it is emptied whenever
something was written. -/
theorem Asking.current {oracle : Oracle} (h : Asking planner oracle p w result)
    (hw : planner.Current w) (hdatabase : w.database = some p.database) :
    planner.Current result.2 := by
  cases h with
  | unasked | unanswered | rejected | unwritten => exact hw
  | @written call path systems db report _ _ _ hwrite =>
    cases hempty : report.isEmpty with
    | false =>
      refine GraphCache.current_of_slot_eq_none ?_
      simp [World.backfilled, hempty, GraphCache.invalidate]
    | true =>
      obtain rfl := Database.backfillPath_of_isEmpty hwrite hempty
      simpa only [Current, World.backfilled, World.asked, hempty, if_true, ← hdatabase] using hw

/-- **A cache stays current through a plan.** -/
theorem current_planRoute (h : planner.Current w) :
    planner.Current (planner.planRoute request w).2 := by
  rcases planner.planRoute_cases request w with hworld | ⟨oracle, p, -, hprepared, -, hasking⟩
  · exact hworld ▸ current_survey h
  · exact hasking.current (current_survey h)
      (database_survey.trans (database_of_prepared hprepared))

/-- A cache stays current while the graph does not change. -/
theorem current_edit (h : planner.Current w) (change : OutsideEdit) :
    planner.Current { w with database := w.database.map change.apply } := by
  intro held hheld
  rw [← h held hheld]
  cases w.database with
  | none => rfl
  | some db =>
    have hgraph : (change.apply db).graph = db.graph :=
      Database.graph_congr (change.mapSystems_eq db) (change.mapSystemGates_eq db)
    simp only [GraphSettings.reading, GraphSettings.connect, Option.map_some, bind, Except.bind,
      hgraph]

/-- What is resolved from what a survey sees, and the world after the survey. -/
theorem resolve_eq (planner : Planner) (query : LocationQuery) (w : World) :
    planner.resolve query w =
      ((planner.survey w).1.mapError .ofStore >>= fun seen =>
          (Gazetteer.resolve ⟨seen.1, seen.2⟩ query).mapError fun cause => { cause },
        (planner.survey w).2) := by
  unfold resolve
  obtain ⟨_ | _, after⟩ := planner.survey w <;> rfl

/-- **A cache stays current through every action.** -/
theorem current_act (planner : Planner) (action : Action) (h : planner.Current w) :
    planner.Current (planner.act w action).2 := by
  cases action with
  | plan request => exact current_planRoute h
  | resolve query =>
    simp only [act, resolve_eq]
    exact current_survey h
  | health => exact (GraphCache.snapshot_of_current h).2
  | snapshot => exact (GraphCache.snapshot_of_current h).2
  | load => exact (GraphCache.load_of_current h).2
  | invalidate => exact GraphCache.current_of_slot_eq_none rfl
  | edit change => exact current_edit h change
  | wait seconds => exact h

/-! ## What is answered does not depend on the cache -/

/-- What a survey sees of a database, without the number of a loading. -/
def sighting (planner : Planner) (db : Option Database) :
    Except StoreError (Database × Snapshot) :=
  planner.graph.reading db >>= fun snapshot => (planner.graph.connect db).map (·, snapshot)

theorem survey_of_current (h : planner.Current w) :
    (planner.survey w).1.map (Prod.map id Snapshot.unnumbered) = planner.sighting w.database := by
  have hread : (w.cache.snapshot planner.graph w.now w.database).1.map Snapshot.unnumbered =
      planner.graph.reading w.database :=
    (GraphCache.snapshot_of_current h).1
  unfold survey sighting
  rw [← hread]
  generalize w.cache.snapshot planner.graph w.now w.database = found
  obtain ⟨_ | snapshot, cache⟩ := found
  · rfl
  · cases w.database <;> rfl

/-- A survey leaves all but the cache alone. -/
theorem uncached_survey (planner : Planner) (w : World) :
    (planner.survey w).2.uncached = w.uncached := by
  rw [survey_snd]
  rfl

/-- What is prepared with a current cache is what is prepared from a loading. -/
theorem prepared_of_current (planner : Planner) (request : RouteRequest)
    (h : planner.Current w) :
    (planner.prepared request w).1.map Prepared.unnumbered =
      (planner.sighting w.database).mapError .ofStore >>= fun seen =>
        prepare seen.1 seen.2 request := by
  rw [← survey_of_current h, prepared]
  cases (planner.survey w).1 with
  | error e => rfl
  | ok seen => exact (prepare_unnumbered seen.1 seen.2 request).symm

/-- What is resolved with a current cache is what is resolved from a loading. -/
theorem resolve_of_current (planner : Planner) (query : LocationQuery)
    (h : planner.Current w) :
    (planner.resolve query w).1 =
      (planner.sighting w.database).mapError .ofStore >>= fun seen =>
        (Gazetteer.resolve ⟨seen.1, seen.2⟩ query).mapError fun cause => { cause } := by
  rw [← survey_of_current h, resolve_eq]
  cases (planner.survey w).1 with
  | error e => rfl
  | ok seen =>
    have hsame := Gazetteer.resolve_unnumbered seen.1 seen.2 query
    simp only [Except.map, Except.mapError, bind, Except.bind, Prod.map, id, hsame]

theorem snapshot_of_current (planner : Planner) (h : planner.Current w) :
    (planner.snapshot w).1.map Snapshot.unnumbered = planner.graph.reading w.database :=
  (GraphCache.snapshot_of_current h).1

theorem load_of_current (planner : Planner) (h : planner.Current w) :
    (planner.load w).1.map Snapshot.unnumbered = planner.graph.reading w.database :=
  (GraphCache.load_of_current h).1

/-- What is assessed with a current cache is a loading. -/
theorem health_of_current (planner : Planner) (h : planner.Current w) :
    (planner.health w).1 = (planner.graph.reading w.database).map (·.health) := by
  rw [← (GraphCache.snapshot_of_current h).1]
  unfold health GraphCache.health
  generalize w.cache.snapshot planner.graph w.now w.database = found
  obtain ⟨_ | _, cache⟩ := found <;> rfl

/-- What is written back does not depend on the cache. -/
theorem writeBack_congr (planner : Planner) (p : Prepared) (path : List SystemId)
    (hsame : w.uncached = v.uncached) :
    (planner.writeBack p path w).1 = (planner.writeBack p path v).1 ∧
      (planner.writeBack p path w).2.uncached = (planner.writeBack p path v).2.uncached := by
  obtain ⟨-, hcalls, hnow⟩ := World.uncached_eq_iff.mp hsame
  have hprovenance : w.provenance = v.provenance := by simp only [World.provenance, hnow]
  rw [writeBack_eq, writeBack_eq, hprovenance]
  split
  · cases p.database.backfillPath v.provenance path with
    | error e => exact ⟨rfl, hsame⟩
    | ok written => exact ⟨rfl, World.uncached_eq_iff.mpr ⟨rfl, hcalls, hnow⟩⟩
  · exact ⟨rfl, hsame⟩

/-- What comes of a prepared request does not depend on the cache. -/
theorem proceed_congr (planner : Planner) (p : Prepared) (hsame : w.uncached = v.uncached) :
    (planner.proceed p w).1 = (planner.proceed p v).1 ∧
      (planner.proceed p w).2.uncached = (planner.proceed p v).2.uncached := by
  obtain ⟨database, cache, calls, now⟩ := w
  obtain ⟨database', cache', calls', now'⟩ := v
  obtain ⟨rfl, rfl, rfl⟩ : database = database' ∧ calls = calls' ∧ now = now' :=
    World.uncached_eq_iff.mp hsame
  unfold proceed
  split
  · exact ⟨rfl, rfl⟩
  · split
    · next oracle _ =>
      unfold routeByOracle
      split
      · exact ⟨rfl, rfl⟩
      · next call _ =>
        dsimp only
        split
        · exact ⟨rfl, rfl⟩
        · next path _ =>
          split
          · exact ⟨rfl, rfl⟩
          · obtain ⟨hreport, hafter⟩ := writeBack_congr planner p path
              (w := ⟨database, cache, call :: calls, now⟩)
              (v := ⟨database, cache', call :: calls, now⟩) rfl
            exact ⟨by rw [hreport], hafter⟩
    · exact ⟨rfl, rfl⟩

/-- What comes of a prepared request has nothing to do with how long snapshots are
kept. -/
theorem proceed_withTtl (planner : Planner) (ttl : Nat) :
    (planner.withTtl ttl).proceed = planner.proceed :=
  rfl

/-- **A plan does not depend on how long snapshots are kept**, nor on which current cache
there is. -/
theorem planRoute_withTtl (ttl ttl' : Nat) (hsame : w.uncached = v.uncached)
    (hw : planner.Current w) (hv : planner.Current v) :
    ((planner.withTtl ttl).planRoute request w).1 = ((planner.withTtl ttl').planRoute request v).1 ∧
      ((planner.withTtl ttl).planRoute request w).2.uncached =
        ((planner.withTtl ttl').planRoute request v).2.uncached := by
  have hdatabase : w.database = v.database := (World.uncached_eq_iff.mp hsame).1
  have hkept := prepared_of_current (planner.withTtl ttl) request hw
  have hreloaded := prepared_of_current (planner.withTtl ttl') request hv
  have hprepared : ((planner.withTtl ttl).prepared request w).1.map Prepared.unnumbered =
      ((planner.withTtl ttl').prepared request v).1.map Prepared.unnumbered := by
    rw [hkept, hreloaded, hdatabase]
    rfl
  have hafter : ((planner.withTtl ttl).prepared request w).2.uncached =
      ((planner.withTtl ttl').prepared request v).2.uncached := by
    simp only [prepared, uncached_survey, hsame]
  rw [planRoute_eq, planRoute_eq]
  generalize (planner.withTtl ttl).prepared request w = found at hprepared hafter ⊢
  generalize (planner.withTtl ttl').prepared request v = found' at hprepared hafter ⊢
  obtain ⟨_ | p, after⟩ := found <;> obtain ⟨_ | q, after'⟩ := found' <;>
    simp only [Except.map, Except.error.injEq, Except.ok.injEq, reduceCtorEq] at hprepared
  · exact ⟨by rw [hprepared], hafter⟩
  · -- both go on from the same, but for the number of the loading
    have hsame : planner.proceed p after = planner.proceed q after := by
      rw [← proceed_unnumbered, hprepared, proceed_unnumbered]
    simp only [proceed_withTtl, hsame]
    exact proceed_congr planner q hafter

/-- **What is answered does not depend on how long snapshots are kept**, nor on which
current cache there is; and neither does the world after it, but for the cache. -/
theorem act_withTtl (ttl ttl' : Nat) (action : Action) (hsame : w.uncached = v.uncached)
    (hw : planner.Current w) (hv : planner.Current v) :
    ((planner.withTtl ttl).act w action).1.unnumbered =
        ((planner.withTtl ttl').act v action).1.unnumbered ∧
      ((planner.withTtl ttl).act w action).2.uncached =
        ((planner.withTtl ttl').act v action).2.uncached := by
  obtain ⟨hdatabase, hcalls, hnow⟩ := World.uncached_eq_iff.mp hsame
  have hreading : (planner.withTtl ttl).graph.reading w.database =
      (planner.withTtl ttl').graph.reading v.database := by
    rw [hdatabase]
    rfl
  cases action with
  | plan request =>
    obtain ⟨hroute, hworld⟩ := planRoute_withTtl ttl ttl' hsame hw hv
    exact ⟨congrArg Answer.route hroute, hworld⟩
  | resolve query =>
    have hkept := resolve_of_current (planner.withTtl ttl) query hw
    have hreloaded := resolve_of_current (planner.withTtl ttl') query hv
    have hplace : ((planner.withTtl ttl).resolve query w).1 =
        ((planner.withTtl ttl').resolve query v).1 := by
      rw [hkept, hreloaded, hdatabase]
      rfl
    refine ⟨congrArg Answer.place hplace, ?_⟩
    simp only [act, Prod.map, id, resolve_eq, uncached_survey, hsame]
  | health =>
    have hhealth : ((planner.withTtl ttl).health w).1 = ((planner.withTtl ttl').health v).1 := by
      rw [health_of_current (planner.withTtl ttl) hw, health_of_current (planner.withTtl ttl') hv,
        hreading]
    exact ⟨congrArg Answer.health hhealth, hsame⟩
  | snapshot =>
    have hsnapshot : ((planner.withTtl ttl).snapshot w).1.map Snapshot.unnumbered =
        ((planner.withTtl ttl').snapshot v).1.map Snapshot.unnumbered := by
      rw [snapshot_of_current (planner.withTtl ttl) hw,
        snapshot_of_current (planner.withTtl ttl') hv, hreading]
    exact ⟨congrArg Answer.snapshot hsnapshot, hsame⟩
  | load =>
    have hsnapshot : ((planner.withTtl ttl).load w).1.map Snapshot.unnumbered =
        ((planner.withTtl ttl').load v).1.map Snapshot.unnumbered := by
      rw [load_of_current (planner.withTtl ttl) hw, load_of_current (planner.withTtl ttl') hv,
        hreading]
    exact ⟨congrArg Answer.snapshot hsnapshot, hsame⟩
  | invalidate => exact ⟨rfl, hsame⟩
  | edit change =>
    exact ⟨rfl, World.uncached_eq_iff.mpr
      ⟨congrArg (Option.map change.apply) hdatabase, hcalls, hnow⟩⟩
  | wait seconds =>
    exact ⟨rfl, World.uncached_eq_iff.mpr ⟨hdatabase, hcalls, congrArg (· + seconds) hnow⟩⟩

/-- A session goes on alike from worlds that differ in their current caches. -/
theorem run_congr (ttl ttl' : Nat) (session : List Action) (hsame : w.uncached = v.uncached)
    (hw : planner.Current w) (hv : planner.Current v) :
    ((planner.withTtl ttl).run session w).1.map Answer.unnumbered =
        ((planner.withTtl ttl').run session v).1.map Answer.unnumbered ∧
      ((planner.withTtl ttl).run session w).2.uncached =
        ((planner.withTtl ttl').run session v).2.uncached := by
  induction session generalizing w v with
  | nil => exact ⟨rfl, hsame⟩
  | cons action session ih =>
    obtain ⟨hanswer, hworld⟩ := act_withTtl ttl ttl' action hsame hw hv
    obtain ⟨hanswers, hend⟩ := ih hworld
      (current_act (planner.withTtl ttl) action hw)
      (current_act (planner.withTtl ttl') action hv)
    exact ⟨congrArg₂ List.cons hanswer hanswers, hend⟩

/-- **How long snapshots are kept makes no difference to a session**: under a cache that
never runs out, and under one of which every use loads the graph anew, it has the
same answers but for the numbers of loadings, and leaves the same tables and calls
behind. -/
theorem run_withTtl (planner : Planner) (ttl ttl' : Nat) (session : List Action)
    (db : Option Database) (now : Nat) :
    let kept := (planner.withTtl ttl).run session { database := db, now }
    let reloaded := (planner.withTtl ttl').run session { database := db, now }
    kept.1.map Answer.unnumbered = reloaded.1.map Answer.unnumbered ∧
      kept.2.database = reloaded.2.database ∧ kept.2.calls = reloaded.2.calls := by
  have hempty : planner.Current { database := db, now } := GraphCache.current_of_slot_eq_none rfl
  obtain ⟨hanswers, hworld⟩ := run_congr ttl ttl' session rfl hempty hempty
  obtain ⟨hdatabase, hcalls, -⟩ := World.uncached_eq_iff.mp hworld
  exact ⟨hanswers, hdatabase, hcalls⟩

end Planner

end StarFreight
