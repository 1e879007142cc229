import StarFreight.Proofs.Planning.Conduct
import StarFreight.Proofs.Search.Ordering
/-!
# Planning — the number of a loading decides nothing

A snapshot carries the number of the loading it comes from, for callers to see.
Nothing that a planner does with a snapshot looks at it: places are resolved,
requests prepared, routes found and paths judged the same way on a snapshot
without its number (`resolve_unnumbered`, `prepare_unnumbered`,
`findRoute_unnumbered`, `validate_unnumbered`).
-/

namespace StarFreight

namespace Gazetteer

variable (database : Database) (snapshot : Snapshot)

theorem exactSystem_unnumbered (name : String) :
    exactSystem ⟨database, snapshot.unnumbered⟩ name = exactSystem ⟨database, snapshot⟩ name := by
  have hnames : snapshot.unnumbered.idByName? = snapshot.idByName? := rfl
  have hname : snapshot.unnumbered.name? = snapshot.name? := rfl
  simp only [exactSystem, hnames, hname]
  rfl

theorem stages_unnumbered (text normalized : String) :
    stages ⟨database, snapshot.unnumbered⟩ text normalized =
      stages ⟨database, snapshot⟩ text normalized := by
  simp only [stages, composite, exactSystem_unnumbered]
  rfl

/-- **A place is resolved without the number.** -/
theorem resolve_unnumbered (query : LocationQuery) :
    resolve ⟨database, snapshot.unnumbered⟩ query = resolve ⟨database, snapshot⟩ query := by
  cases query with
  | name text =>
    have hnear : snapshot.unnumbered.suggestions = snapshot.suggestions := rfl
    simp only [resolve, resolveName, stages_unnumbered, hnear]
  | number id kind => cases kind <;> rfl

end Gazetteer

/-! ## Searches -/

namespace SearchContext

/-- What a search consults, without the number of the loading. -/
def unnumbered (ctx : SearchContext) : SearchContext :=
  { ctx with snapshot := ctx.snapshot.unnumbered }

variable (ctx : SearchContext) (s goal : SystemId)

theorem alike_unnumbered : ctx.unnumbered.Alike ctx :=
  ⟨fun _ => rfl, fun _ => rfl, fun _ _ => rfl, fun _ _ _ => rfl, fun _ _ _ => rfl⟩

/-- **A route is found without the number.** -/
theorem findRoute_unnumbered : ctx.unnumbered.findRoute s goal = ctx.findRoute s goal :=
  findRoute_congr ctx.alike_unnumbered s goal

variable {ctx s goal} {v : SystemId} {path : List SystemId}

/-- And a walk leads on without it. -/
theorem Trail.unnumbered (h : ctx.Trail s goal v path) : ctx.unnumbered.Trail s goal v path where
  head := h.head
  last := h.last
  moves := h.moves.imp fun _ _ hmove => ⟨hmove.ne_start, hmove.neighbour, hmove.admitted⟩
  goal_last := h.goal_last

end SearchContext

/-! ## Judges -/

namespace PathJudge

/-- A judge that does not see the number of the loading. -/
def unnumbered (judge : PathJudge) : PathJudge :=
  { judge with context := judge.context.unnumbered }

variable (judge : PathJudge)

/-- **A path is judged without the number.** -/
theorem validate_unnumbered : judge.unnumbered.validate = judge.validate :=
  validate_congr rfl rfl rfl

end PathJudge

/-! ## Plans -/

namespace Prepared

/-- What a route is looked for with, without the number of the loading. -/
def unnumbered (p : Prepared) : Prepared :=
  { p with snapshot := p.snapshot.unnumbered }

variable (p : Prepared)

theorem searchFailure_unnumbered : p.unnumbered.searchFailure = p.searchFailure := by
  have hfree : p.unnumbered.context.withoutHard = p.context.withoutHard.unnumbered := rfl
  simp only [searchFailure, hfree, SearchContext.findRoute_unnumbered]
  rfl

theorem routeLocally_unnumbered : p.unnumbered.routeLocally = p.routeLocally := by
  have hcontext : p.unnumbered.context = p.context.unnumbered := rfl
  simp only [routeLocally, hcontext, SearchContext.findRoute_unnumbered,
    searchFailure_unnumbered]
  rfl

end Prepared

variable (database : Database) (snapshot : Snapshot) (request : RouteRequest)

theorem gatherPrepared_unnumbered :
    gatherPrepared database snapshot.unnumbered request =
      (gatherPrepared database snapshot request).map Prepared.unnumbered := by
  have hend : Gazetteer.endSystem ⟨database, snapshot.unnumbered⟩ =
      Gazetteer.endSystem ⟨database, snapshot⟩ :=
    rfl
  simp only [gatherPrepared, Gazetteer.resolve_unnumbered, hend, bind_map]
  rfl

/-- **A request is prepared without the number.** -/
theorem prepare_unnumbered :
    prepare database snapshot.unnumbered request =
      (prepare database snapshot request).map Prepared.unnumbered := by
  simp only [prepare, gatherPrepared_unnumbered, bind_map]
  cases gatherPrepared database snapshot request with
  | error failure => rfl
  | ok p =>
    have hfault : p.unnumbered.endFault? = p.endFault? := rfl
    simp only [Except.map, bind, Except.bind, hfault]
    cases p.endFault? <;> rfl

namespace Planner

variable (planner : Planner) (p : Prepared) (w : World)

theorem routeByOracle_unnumbered (oracle : Oracle) :
    planner.routeByOracle oracle p.unnumbered w = planner.routeByOracle oracle p w := by
  have hcall : p.unnumbered.oracleCall = p.oracleCall := rfl
  have hvalid : (⟨p.unnumbered.database, p.unnumbered.context⟩ : PathJudge).validate =
      (⟨p.database, p.context⟩ : PathJudge).validate :=
    PathJudge.validate_unnumbered ⟨p.database, p.context⟩
  simp only [routeByOracle, hcall, hvalid]
  rfl

/-- **What comes of a prepared request comes of it without the number.** -/
theorem proceed_unnumbered : planner.proceed p.unnumbered w = planner.proceed p w := by
  have hlocal : p.unnumbered.isLocal = p.isLocal := rfl
  simp only [proceed, hlocal, Prepared.routeLocally_unnumbered, routeByOracle_unnumbered]
  rfl

end Planner

end StarFreight
