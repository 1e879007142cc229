import StarFreight.Proofs.Planning.Session
import StarFreight.Proofs.Store.Naming
import StarFreight.Proofs.Store.RuleRows
/-!
# Planning — the table of rules

Of the table of rules a planner sees the rules that are loaded of it. A world in which
another table stands in its place, of which the same rules are loaded, is planned in
alike: every stage of a plan gives the same, and what is written elsewhere is written
(`planRoute_withRules`), and so it goes for a session (`run_withRules`). Rows that do not
count give another table of which the same is loaded; so there is no answer in which
they have a say (`rows_disregarded`).
-/

namespace StarFreight

namespace Database

variable (db : Database) (t : Option Table) {name : TableName}

/-! ## Reads and writes -/

/-- Other tables are set beside the table of rules. -/
theorem withTable_withRules (h : name ≠ .avoidRules) (t' : Option Table) :
    (db.withRules t).withTable name t' = (db.withTable name t').withRules t := by
  cases name <;> first | rfl | exact absurd rfl h

theorem require_withRules (h : name ≠ .avoidRules) :
    (db.withRules t).require name = db.require name := by
  rw [require, require, withRules, table?_withTable_of_ne db t h]

theorem add_withRules (h : name ≠ .avoidRules) (values : List (String × Cell)) :
    (db.withRules t).add name values =
      (db.add name values).map (Prod.map (·.withRules t) id) := by
  simp only [add, require_withRules db t h, bind_map]
  refine congrArg _ (funext fun found => ?_)
  split
  · exact congrArg _ (Prod.ext (withTable_withRules db t h _) rfl)
  · rfl

theorem insert_withRules (h : name ≠ .avoidRules) (values : List (String × Cell)) :
    (db.withRules t).insert name values = (db.insert name values).map (·.withRules t) := by
  simp only [insert, require_withRules db t h, bind_map]
  refine congrArg _ (funext fun found => ?_)
  split
  · exact congrArg _ (withTable_withRules db t h _)
  · rfl

theorem audit_withRules (prov : Provenance) (kind key : String) (detail : Cell) :
    (db.withRules t).audit prov kind key detail =
      (db.audit prov kind key detail).map (·.withRules t) :=
  insert_withRules db t (by decide) _

/-! ## Backfills -/

variable (prov : Provenance) (state : Database × BackfillReport)

theorem backfillSystem_withRules (visited : SystemId) :
    backfillSystem prov (state.map (·.withRules t) id) visited =
      (backfillSystem prov state visited).map (Prod.map (·.withRules t) id) := by
  obtain ⟨db, report⟩ := state
  have hhas : (db.withRules t).hasMapSystem visited = db.hasMapSystem visited := rfl
  have hfound : (db.withRules t).referenceSystem? visited = db.referenceSystem? visited := rfl
  have hadd : ∀ s, (db.withRules t).addMapSystem s =
      (db.addMapSystem s).map (Prod.map (·.withRules t) id) := fun s =>
    add_withRules db t (by decide) _
  simp only [backfillSystem, Prod.map, id, hhas, hfound, hadd, bind_map]
  refine congrArg _ (funext fun has => ?_)
  split
  · rfl
  · simp only [bind_map]
    refine congrArg _ (funext fun found => ?_)
    split
    · rfl
    · simp only [map_bind, bind_map]
      refine congrArg _ (funext fun added => ?_)
      obtain ⟨after, added⟩ := added
      cases added with
      | false => rfl
      | true =>
        -- only a system that was added is recorded
        simp only [Prod.map, id, if_true, audit_withRules, map_bind, bind_map]
        rfl

theorem backfillStep_withRules (step : SystemId × SystemId) :
    backfillStep prov (state.map (·.withRules t) id) step =
      (backfillStep prov state step).map (Prod.map (·.withRules t) id) := by
  obtain ⟨db, report⟩ := state
  have hadd : ∀ (db : Database) a b, (db.withRules t).addGate a b =
      (db.addGate a b).map (Prod.map (·.withRules t) id) := fun db a b =>
    add_withRules db t (by decide) _
  simp only [backfillStep, Prod.map, id, hadd]
  split
  · rfl
  · simp only [map_bind, bind_map]
    refine congrArg _ (funext fun there => ?_)
    obtain ⟨mid, there⟩ := there
    simp only [Prod.map, id, hadd, map_bind]
    refine congrArg _ (funext fun back => ?_)
    obtain ⟨after, back⟩ := back
    split
    · simp only [audit_withRules, map_bind, bind_map]
      rfl
    · rfl

/-- **A backfill writes the same beside another table of rules.** -/
theorem backfillPath_withRules (path : List SystemId) :
    (db.withRules t).backfillPath prov path =
      (db.backfillPath prov path).map (Prod.map (·.withRules t) id) := by
  have hsystems := foldlM_map (backfillSystem_withRules t prov) path (db, {})
  have hsteps := foldlM_map (backfillStep_withRules t prov) (path.zip path.tail)
  calc
    (db.withRules t).backfillPath prov path =
        (path.foldlM (backfillSystem prov) (db, {})).map (Prod.map (·.withRules t) id) >>=
          (path.zip path.tail).foldlM (backfillStep prov) :=
      congrArg (· >>= _) hsystems
    _ = (db.backfillPath prov path).map (Prod.map (·.withRules t) id) := by
      simp only [backfillPath, map_bind, bind_map, hsteps]

end Database

/-! ## Preparations -/

section Preparation

variable (db : Database) (t : Option Table) (snapshot : Snapshot) (request : RouteRequest)

/-- A place is resolved beside another table of rules. -/
theorem Gazetteer.resolve_withRules (query : LocationQuery) :
    Gazetteer.resolve ⟨db.withRules t, snapshot⟩ query =
      Gazetteer.resolve ⟨db, snapshot⟩ query := by
  have hstages : Gazetteer.stages ⟨db.withRules t, snapshot⟩ =
      Gazetteer.stages ⟨db, snapshot⟩ := rfl
  cases query with
  | name text => simp only [resolve, resolveName, hstages]
  | number id kind => cases kind <;> rfl

/-- What a route is looked for with, beside another table of rules. -/
def Prepared.withRules (p : Prepared) (t : Option Table) : Prepared :=
  { p with database := p.database.withRules t }

variable (hrules : (db.withRules t).rules = db.rules)

include hrules

theorem gatherPrepared_withRules : gatherPrepared (db.withRules t) snapshot request =
    (gatherPrepared db snapshot request).map (·.withRules t) := by
  have hpolicy : (db.withRules t).policy = db.policy := rfl
  have hend : Gazetteer.endSystem ⟨db.withRules t, snapshot⟩ =
      Gazetteer.endSystem ⟨db, snapshot⟩ := rfl
  simp only [gatherPrepared, Gazetteer.resolve_withRules, hrules, hpolicy, hend, bind_map]
  rfl

/-- **A request is prepared alike** where the same rules are loaded. -/
theorem prepare_withRules : prepare (db.withRules t) snapshot request =
    (prepare db snapshot request).map (·.withRules t) := by
  simp only [prepare, gatherPrepared_withRules db t snapshot request hrules, map_bind, bind_map]
  refine congrArg _ (funext fun p => ?_)
  have hfault : (p.withRules t).endFault? = p.endFault? := rfl
  rw [hfault]
  cases p.endFault? <;> rfl

end Preparation

/-! ## Plans -/

/-- A world with another table of rules. -/
def World.withRules (w : World) (t : Option Table) : World :=
  { w with database := w.database.map (·.withRules t) }

/-- Whether the same rules would be loaded of another table of rules. -/
def World.SameRules (w : World) (t : Option Table) : Prop :=
  ∀ db, w.database = some db → (db.withRules t).rules = db.rules

namespace PathJudge

variable (judge : PathJudge) (t : Option Table)

/-- A path is judged alike beside another table of rules. -/
theorem validate_withRules :
    ({ judge with database := judge.database.withRules t } : PathJudge).validate =
      judge.validate :=
  validate_congr rfl rfl rfl

end PathJudge

namespace GraphCache

/-- The graph is loaded alike beside another table of rules. -/
theorem snapshot_withRules (cache : GraphCache) (settings : GraphSettings) (now : Nat)
    (db : Option Database) (t : Option Table) :
    cache.snapshot settings now (db.map (·.withRules t)) = cache.snapshot settings now db := by
  cases db <;> rfl

end GraphCache

namespace Planner

variable (planner : Planner) (request : RouteRequest) (w : World) (t : Option Table) (p : Prepared)
  (path : List SystemId)

/-- A survey sees the same graph, and the database with the other table. -/
theorem survey_withRules : planner.survey (w.withRules t) =
    (planner.survey w).map (·.map (Prod.map (·.withRules t) id)) (·.withRules t) := by
  unfold survey
  have hsnapshot : (w.withRules t).cache.snapshot planner.graph (w.withRules t).now
      (w.withRules t).database = w.cache.snapshot planner.graph w.now w.database :=
    GraphCache.snapshot_withRules ..
  rw [hsnapshot]
  generalize w.cache.snapshot planner.graph w.now w.database = found
  obtain ⟨_ | snapshot, cache⟩ := found
  · rfl
  · obtain ⟨_ | db, -, -, -⟩ := w <;> rfl

theorem resolve_withRules (query : LocationQuery) : planner.resolve query (w.withRules t) =
    (planner.resolve query w).map id (·.withRules t) := by
  rw [resolve_eq, resolve_eq, survey_withRules]
  generalize planner.survey w = seen
  obtain ⟨_ | ⟨db, snapshot⟩, after⟩ := seen
  · rfl
  · simp only [Prod.map, Except.map, Except.mapError, bind, Except.bind, id,
      Gazetteer.resolve_withRules]

theorem writeBack_withRules : planner.writeBack (p.withRules t) path (w.withRules t) =
    (planner.writeBack p path w).map id (·.withRules t) := by
  have henabled : backfillEnabled planner.backfill planner.environment (p.withRules t).database =
      backfillEnabled planner.backfill planner.environment p.database := rfl
  have hpath : (p.withRules t).database.backfillPath (w.withRules t).provenance path =
      (p.database.backfillPath w.provenance path).map (Prod.map (·.withRules t) id) :=
    Database.backfillPath_withRules ..
  rw [writeBack_eq, writeBack_eq, henabled, hpath]
  split
  · cases p.database.backfillPath w.provenance path <;> rfl
  · rfl

theorem routeByOracle_withRules (oracle : Oracle) :
    planner.routeByOracle oracle (p.withRules t) (w.withRules t) =
      (planner.routeByOracle oracle p w).map id (·.withRules t) := by
  have hcall : (p.withRules t).oracleCall = p.oracleCall := rfl
  have hvalid : (⟨(p.withRules t).database, (p.withRules t).context⟩ : PathJudge).validate =
      (⟨p.database, p.context⟩ : PathJudge).validate :=
    PathJudge.validate_withRules ⟨p.database, p.context⟩ t
  unfold routeByOracle
  rw [hcall]
  cases p.oracleCall with
  | error e => rfl
  | ok call =>
    have hcalls : (w.withRules t).calls = w.calls := rfl
    simp only [hvalid, hcalls]
    cases oracle w.calls.length call with
    | error e => rfl
    | ok path =>
      dsimp only
      cases (⟨p.database, p.context⟩ : PathJudge).validate call.origin call.destination path with
      | error cause => rfl
      | ok systems =>
        -- the path is written beside either table, and reported alike
        have hwritten : planner.writeBack (p.withRules t) path ((w.asked call).withRules t) =
            (planner.writeBack p path (w.asked call)).map id (·.withRules t) :=
          writeBack_withRules ..
        exact congrArg (fun written : Option BackfillReport × World =>
          ((.ok (p.route systems .oracle 0 written.1) : Except Failure Route), written.2)) hwritten

/-- What comes of a prepared request does not look at the table of rules again. -/
theorem proceed_withRules : planner.proceed (p.withRules t) (w.withRules t) =
    (planner.proceed p w).map id (·.withRules t) := by
  have hlocal : (p.withRules t).isLocal = p.isLocal := rfl
  have hroute : (p.withRules t).routeLocally = p.routeLocally := rfl
  unfold proceed
  rw [hlocal, hroute]
  split
  · rfl
  · split
    · exact routeByOracle_withRules ..
    · rfl

variable (hrules : w.SameRules t)

include hrules

theorem prepared_withRules : planner.prepared request (w.withRules t) =
    (planner.prepared request w).map (·.map (·.withRules t)) (·.withRules t) := by
  unfold prepared
  rw [survey_withRules]
  cases hseen : (planner.survey w).1 with
  | error e => simp only [Prod.map, hseen]; rfl
  | ok seen =>
    obtain ⟨db, snapshot⟩ := seen
    have hdb : w.database = some db := (survey_eq_ok (Prod.ext hseen rfl)).1
    have hprepare := prepare_withRules db t snapshot request (hrules db hdb)
    simp only [Prod.map, hseen, Except.map, Except.mapError, bind, Except.bind, id, hprepare]

/-- **A plan goes alike** where the same rules are loaded: the same is answered, the same is
asked, and the same is written. -/
theorem planRoute_withRules : planner.planRoute request (w.withRules t) =
    (planner.planRoute request w).map id (·.withRules t) := by
  rw [planRoute_eq, planRoute_eq, prepared_withRules planner request w t hrules]
  generalize planner.prepared request w = found
  obtain ⟨_ | p, after⟩ := found
  · rfl
  · exact proceed_withRules ..

omit hrules

/-! ## Sessions -/

/-- A plan leaves the table of rules as it is. -/
theorem rulesTable_planRoute {after : Database}
    (h : (planner.planRoute request w).2.database = some after) :
    ∃ db, w.database = some db ∧ after.table? .avoidRules = db.table? .avoidRules := by
  rcases planner.planRoute_cases request w with hworld | ⟨oracle, p, -, hprepared, -, hasking⟩
  · rw [hworld, database_survey] at h
    exact ⟨after, h, rfl⟩
  · have hdatabase := database_of_prepared hprepared
    generalize planner.planRoute request w = planned at hasking h
    cases hasking with
    | unasked | unanswered | rejected | unwritten =>
      exact ⟨after, database_survey.symm.trans h, rfl⟩
    | written _ _ _ hwrite =>
      obtain rfl := Option.some.inj h
      exact ⟨_, hdatabase, Database.table?_of_backfillPath hwrite (by decide)⟩

/-- Where the table of rules is as it was, the same is loaded of it and of another. -/
theorem sameRules_of_table {after : World} (hrules : w.SameRules t)
    (h : ∀ db', after.database = some db' →
      ∃ db, w.database = some db ∧ db'.table? .avoidRules = db.table? .avoidRules) :
    after.SameRules t := by
  intro db' hdb'
  obtain ⟨db, hdb, htable⟩ := h db' hdb'
  have hother : (db'.withRules t).rules = (db.withRules t).rules := Database.rules_congr rfl
  rw [hother, Database.rules_congr htable, hrules db hdb]

variable (action : Action) (hinside : ∀ change, action ≠ .edit change)

include hinside

theorem sameRules_act (hrules : w.SameRules t) : (planner.act w action).2.SameRules t := by
  refine sameRules_of_table w t hrules fun db' hdb' => ?_
  cases action with
  | plan request => exact rulesTable_planRoute planner request w hdb'
  | resolve query =>
    simp only [act, Prod.map, resolve_eq, id, database_survey] at hdb'
    exact ⟨db', hdb', rfl⟩
  | health | snapshot | load | invalidate | wait => exact ⟨db', hdb', rfl⟩
  | edit change => exact absurd rfl (hinside change)

/-- **Whatever is done goes alike** where the same rules are loaded. -/
theorem act_withRules (hrules : w.SameRules t) : planner.act (w.withRules t) action =
    (planner.act w action).map id (·.withRules t) := by
  cases action with
  | plan request =>
    simp only [act, planRoute_withRules planner request w t hrules]
    rfl
  | resolve query =>
    simp only [act, resolve_withRules]
    rfl
  | health => obtain ⟨_ | _, _, _, _⟩ := w <;> rfl
  | snapshot => obtain ⟨_ | _, _, _, _⟩ := w <;> rfl
  | load => obtain ⟨_ | _, _, _, _⟩ := w <;> rfl
  | invalidate => rfl
  | edit change => exact absurd rfl (hinside change)
  | wait seconds => rfl

omit hinside

/-- **A session goes alike** where the same rules are loaded, as long as nothing changes
the rows from outside. -/
theorem run_withRules (planner : Planner) (t : Option Table) (session : List Action)
    (hinside : ∀ change, .edit change ∉ session) (w : World) (hrules : w.SameRules t) :
    planner.run session (w.withRules t) = (planner.run session w).map id (·.withRules t) := by
  -- what carries over from action to action is that the same rules are loaded
  induction session generalizing w with
  | nil => rfl
  | cons action session ih =>
    have haction : ∀ change, action ≠ .edit change := fun change h =>
      hinside change (h ▸ List.mem_cons_self)
    have hrest : ∀ change, .edit change ∉ session := fun change h =>
      hinside change (List.mem_cons_of_mem action h)
    have hafter := sameRules_act planner w t action haction hrules
    simp only [run, act_withRules planner w t action haction hrules, Prod.map,
      ih hrest _ hafter, id]

/-- **Rows of rules that do not count have no say.** Of a table of rules that can be read,
the rules of the rows that count are loaded, by number, each within its bounds; so no step
costs less than 1, nor less than 3 more for every soft rule it crosses. Without the rows
that are not active or make no sense, any or all of them, the same is loaded; and nothing
that is answered in any session is different, nor is what the session leaves behind but
for these rows. -/
theorem rows_disregarded {db : Database} {rows : Table} {set : RuleSet}
    (hrows : db.avoidRules = some rows) (hrules : db.rules = .ok set) :
    (∃ rules, set = .ofList rules ∧ rows.Loads rules) ∧
    (∀ ctx : SearchContext, ctx.rules = set → ∀ source target phase,
      1 + 3 * (set.softHits source target phase).length ≤ ctx.stepCost source target phase) ∧
    ∀ keep : Row → Bool,
      (∀ row ∈ rows.rows, rows.isActive row = true →
        ∀ r, rows.ShowsRule row r → r.Valid → keep row = true) →
      (db.withRules (some (rows.keeping keep))).rules = .ok set ∧
      ∀ (planner : Planner) (session : List Action) (w : World), w.database = some db →
        (∀ change, .edit change ∉ session) →
          planner.run session (w.withRules (some (rows.keeping keep))) =
            (planner.run session w).map id (·.withRules (some (rows.keeping keep))) := by
  obtain ⟨-, hset⟩ := (Database.rules_eq_ok hrows).mp hrules
  refine ⟨⟨_, hset, rows.loads_loadedRules⟩, fun ctx hctx source target phase => ?_,
    fun keep hkeep => ?_⟩
  · have hpenalty : 3 * (set.softHits source target phase).length ≤
        set.penalty source target phase := by
      rw [hset]
      exact RuleSet.length_softHits_le_penalty
        (fun rule hrule => (rows.loads_loadedRules.severity rule hrule).1) source target phase
    rw [SearchContext.stepCost, hctx]
    omega
  · have hkept : (db.withRules (some (rows.keeping keep))).rules = .ok set := by
      refine Database.rules_keeping hrows hrules fun row hrow hcounts => ?_
      obtain ⟨hactive, r, hr, hvalid⟩ := Table.counts_iff.mp hcounts
      exact hkeep row hrow hactive r hr hvalid
    refine ⟨hkept, fun planner session w hw hinside => run_withRules planner _ session hinside w ?_⟩
    intro db' hdb'
    obtain rfl := Option.some.inj (hw.symm.trans hdb')
    exact hkept.trans hrules.symm

end Planner

/-! ## Rows that do not count -/

/-- Rules of which the first counts: the second is not active, the third is about nothing
that is known, and the severity of the last is out of bounds. -/
def sandbarRules : Table :=
  { TableName.avoidRules.emptyTable with
    rows :=
      [ [ .integer 1, .text " System", .integer 2, .null, .null, .integer 1
        , .null, .null, .null, .null, .integer 1 ]
      , [ .integer 2, .text "system", .integer 3, .null, .integer 1, .integer 1
        , .null, .null, .null, .null, .integer 0 ]
      , [ .integer 3, .text "galaxy", .integer 3, .null, .integer 1, .integer 1
        , .null, .null, .null, .null, .integer 1 ]
      , [ .integer 4, .text "region", .integer 7, .null, .integer 0, .integer 1
        , .null, .null, .null, .null, .integer 1 ] ] }

/-- The tables of the lagoon with these rules. -/
def sandbarTables : Database :=
  (lagoonTables "system" 2).withRules (some sandbarRules)

/-- The lagoon with these tables. -/
def sandbar : World :=
  { lagoon "system" 2 with database := some sandbarTables }

/-- Three rows of four can go, and the route is what it was. -/
theorem Planner.rows_disregarded_sandbar :
    (sandbarRules.keeping sandbarRules.counts).rows.length = 1 ∧
    ∃ set, sandbarTables.rules = .ok set ∧
      (sandbarTables.withRules (some (sandbarRules.keeping sandbarRules.counts))).rules = .ok set ∧
      (lagoonPlanner.run [.plan lagoonRequest]
          (sandbar.withRules (some (sandbarRules.keeping sandbarRules.counts)))).1 =
        (lagoonPlanner.run [.plan lagoonRequest] sandbar).1 := by
  have hread : ∀ row ∈ sandbarRules.rows,
      (sandbarRules.record ruleColumns row).ruleRow.toOption.isSome = true := by
    decide +kernel
  have hreadable : sandbarRules.RulesReadable := by
    refine ⟨by decide, by decide, fun row hrow _ => ?_⟩
    obtain ⟨r, hr⟩ := Option.isSome_iff_exists.mp (hread row hrow)
    exact ⟨r, Table.ruleRow_record.mp (toOption_eq_some_iff.mp hr)⟩
  have hrules : sandbarTables.rules = .ok (.ofList sandbarRules.loadedRules) :=
    (Database.rules_eq_ok rfl).mpr ⟨hreadable, rfl⟩
  obtain ⟨-, -, hkeep⟩ := Planner.rows_disregarded rfl hrules
  obtain ⟨hkept, hrun⟩ := hkeep sandbarRules.counts fun row _ hactive r hr hvalid =>
    Table.counts_iff.mpr ⟨hactive, r, hr, hvalid⟩
  refine ⟨by decide +kernel, _, hrules, hkept, ?_⟩
  simp only [hrun lagoonPlanner [.plan lagoonRequest] sandbar rfl (by simp), Prod.map, id]

end StarFreight
