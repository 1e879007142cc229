import StarFreight.Proofs.Planning.Conduct
import StarFreight.Proofs.Planning.Safety
/-!
# Planning — routes from a system to itself

A request may have the same system at both ends. The graph answers it with that
system alone, since a search that starts at its goal is over (`findRoute_self`).
A judge of paths asks less: that a path begins and ends there and moves at every
step, which a path of three systems does as well (`closed_cases`). So whether
such a route stays where it is (`Route.StaysAt`) is for the graph to say and
otherwise for the oracle, and a route that does not stay goes all the way round
(`Route.ReturnsTo`).
-/

namespace StarFreight

/-- A route that is one system, of the given number. -/
structure Route.StaysAt (route : Route) (id : SystemId) : Prop where
  path_eq : route.path.map (·.systemId) = [id]
  hopCount_eq : route.hopCount = 0
  classCounts_eq : route.classCounts = []
  softRulesHit_eq : route.softRulesHit = []

/-- A route that leaves a system and comes back to it. -/
structure Route.ReturnsTo (route : Route) (id : SystemId) : Prop where
  head : (route.path.map (·.systemId)).head? = some id
  last : (route.path.map (·.systemId)).getLast? = some id
  two_le : 2 ≤ route.hopCount
  enters : route.classCounts ≠ []

section Closed

variable {α : Type} {a : α} {path : List α}

/-- What moves at every step and ends where it began is one system or at least three. -/
theorem closed_cases (hhead : path.head? = some a) (hlast : path.getLast? = some a)
    (hmoves : path.IsChain (· ≠ ·)) : path = [a] ∨ 3 ≤ path.length := by
  match path, hhead, hlast, hmoves with
  | [b], hhead, _, _ => exact .inl (congrArg (fun c => [c]) (Option.some.inj hhead))
  | [b, c], hhead, hlast, hmoves =>
    have hb : b = a := Option.some.inj hhead
    have hc : c = a := Option.some.inj hlast
    exact absurd (hb.trans hc.symm) (List.isChain_cons_cons.mp hmoves).1
  | b :: c :: d :: rest, _, _, _ => exact .inr (by simp only [List.length_cons]; omega)

end Closed

/-- No class is counted exactly when no system is entered. -/
theorem tallyClasses_eq_nil_iff {classes : List SecurityClass} :
    tallyClasses classes = [] ↔ classes = [] := by
  constructor
  · intro h
    rw [List.eq_nil_iff_forall_not_mem]
    intro c hc
    have hcount : classes.count c ≠ 0 := (List.count_pos_iff.mpr hc).ne'
    have hmem : (c, classes.count c) ∈ tallyClasses classes := by
      rw [tallyClasses, List.mem_filter]
      refine ⟨List.mem_map.mpr ⟨c, ?_, rfl⟩, bne_iff_ne.mpr hcount⟩
      cases c <;> decide
    rw [h] at hmem
    cases hmem
  · rintro rfl
    rfl

/-- Systems known under the numbers of a path have these numbers. -/
theorem Database.ids_of_knownSystem? {db : Database} {snapshot : Snapshot} {path : List SystemId}
    {systems : List StarSystem}
    (h : List.Forall₂ (fun id s => db.knownSystem? snapshot id = .ok (some s)) path systems) :
    systems.map (·.id) = path := by
  induction h with
  | nil => rfl
  | cons hs _ ih => rw [List.map_cons, ih, Database.id_of_knownSystem? hs]

namespace Prepared

variable {p : Prepared} {systems : List StarSystem} {source : RouteSource} {excluded : Nat}
  {report : Option BackfillReport} {id : SystemId} {path : List SystemId}

/-- The systems on a route are those it is put together from. -/
theorem ids_route : (p.route systems source excluded report).path.map (·.systemId) =
    systems.map (·.id) := by
  simp only [route, List.map_map]
  rfl

/-- **A route stays exactly when it is put together from one system**: it takes no
jump then, enters no class and crosses no rule. -/
theorem staysAt_route_iff :
    (p.route systems source excluded report).StaysAt id ↔ systems.map (·.id) = [id] := by
  constructor
  · intro h
    rw [← ids_route]
    exact h.path_eq
  · intro h
    match systems, h with
    | [s], h => exact { path_eq := h, hopCount_eq := rfl, classCounts_eq := rfl,
                        softRulesHit_eq := rfl }

/-- A route along three or more systems, the first of them the last, returns. -/
theorem returnsTo_route (hhead : (systems.map (·.id)).head? = some id)
    (hlast : (systems.map (·.id)).getLast? = some id) (hlength : 3 ≤ (systems.map (·.id)).length) :
    (p.route systems source excluded report).ReturnsTo id where
  head := ids_route ▸ hhead
  last := ids_route ▸ hlast
  two_le := by
    rw [List.length_map] at hlength
    exact Nat.le_sub_one_of_lt hlength
  enters := by
    rw [List.length_map] at hlength
    refine tallyClasses_eq_nil_iff.not.mpr fun hnil => ?_
    have htail := congrArg List.length hnil
    simp only [List.length_tail, List.length_map, List.length_nil] at htail
    omega

/-- **The graph answers a request for where one is with the system alone**, and never
fails to. -/
theorem routeLocally_of_same (hlocal : p.isLocal = true)
    (hsame : p.origin.system.id = p.destination.system.id) :
    ∃ s, s.id = p.origin.system.id ∧ p.routeLocally = .ok (p.route [s] .localGraph 0 none) := by
  obtain ⟨-, horigin, -⟩ := isLocal_iff.mp hlocal
  obtain ⟨s, hs⟩ := Option.isSome_iff_exists.mp (Snapshot.isSome_system? horigin)
  have hknown : p.database.knownSystem? p.snapshot p.origin.system.id = .ok (some s) :=
    Database.knownSystem?_of_system? hs
  have hcontains : p.context.snapshot.contains p.origin.system.id = true := horigin
  refine ⟨s, Database.id_of_knownSystem? hknown, ?_⟩
  refine routeLocally_eq_ok.mpr ⟨⟨[p.origin.system.id], 0, 0⟩, ?_, ?_⟩
  · rw [← hsame, SearchContext.findRoute_self, if_pos hcontains]
  · rw [List.filterMap_cons_some hs, List.filterMap_nil]

/-- The systems that a judge accepts for a path have the numbers on it. -/
theorem ids_of_accepts {origin destination : SystemId}
    (h : p.judge.Accepts origin destination path systems) : systems.map (·.id) = path :=
  Database.ids_of_knownSystem? h.known

/-- A route along a path that a judge accepts stays exactly when the path does. -/
theorem staysAt_route_of_accepts {origin destination : SystemId}
    (h : p.judge.Accepts origin destination path systems) :
    (p.route systems source excluded report).StaysAt id ↔ path = [id] := by
  rw [staysAt_route_iff, ids_of_accepts h]

/-- **A judge takes a closed path that does not stay**, and the route returns. -/
theorem returnsTo_route_of_accepts {s : SystemId} (h : p.judge.Accepts s s path systems)
    (hmoves : path ≠ [s]) : (p.route systems source excluded report).ReturnsTo s := by
  have hlength := (closed_cases h.head h.last h.moves).resolve_left hmoves
  have hids := (ids_of_accepts h).symm
  exact returnsTo_route (hids ▸ h.head) (hids ▸ h.last) (hids ▸ hlength)

end Prepared

namespace Planner

variable {planner : Planner} {request : RouteRequest} {w : World} {route : Route} {p : Prepared}

/-- **A route comes from the graph, and nothing was asked for it, or from the oracle's
answer to the one thing asked.** -/
theorem planRoute_came (h : (planner.planRoute request w).1 = .ok route) :
    ∃ p, (planner.prepared request w).1 = .ok p ∧
      ((p.isLocal = true ∧ p.routeLocally = .ok route ∧
          (planner.planRoute request w).2.calls = w.calls) ∨
        ∃ oracle call path systems report, planner.oracle = some oracle ∧
          (planner.planRoute request w).2.calls = call :: w.calls ∧
          oracle w.calls.length call = .ok path ∧
          p.judge.Accepts p.origin.system.id p.destination.system.id path systems ∧
          route = p.route systems .oracle 0 report) := by
  have hcalls : (planner.prepared request w).2.calls = w.calls := calls_survey
  rw [planRoute_eq] at h ⊢
  generalize planner.prepared request w = found at h hcalls ⊢
  obtain ⟨_ | p, after⟩ := found
  · cases h
  refine ⟨p, rfl, ?_⟩
  dsimp only [proceed] at h hcalls ⊢
  cases hlocal : p.isLocal with
  | true =>
    simp only [hlocal, if_true] at h ⊢
    exact .inl ⟨trivial, h, hcalls⟩
  | false =>
    simp only [hlocal, Bool.false_eq_true, if_false] at h ⊢
    cases horacle : planner.oracle with
    | none => simp [horacle] at h
    | some oracle =>
      simp only [horacle] at h ⊢
      have hasking := asking_routeByOracle planner oracle p after
      generalize planner.routeByOracle oracle p after = result at h hasking ⊢
      cases hasking with
      | unasked | unanswered | rejected => cases h
      | unwritten _ hanswer hpath | written _ hanswer hpath =>
        rw [hcalls] at hanswer
        exact .inr ⟨oracle, _, _, _, _, rfl, congrArg _ hcalls, hanswer, hpath,
          (Except.ok.inj h).symm⟩

/-- The ends that are prepared have the numbers that a basis has resolved. -/
theorem ids_of_prepared (b : Basis planner request w)
    (h : (planner.prepared request w).1 = .ok p) :
    p.origin.system.id = b.origin.systemId ∧ p.destination.system.id = b.destination.systemId := by
  obtain ⟨database, snapshot, hseen, hprepare⟩ := prepared_eq_ok h
  obtain ⟨hdatabase, hsnapshot⟩ := survey_eq_ok (Prod.ext hseen rfl)
  obtain rfl := Option.some.inj (b.database_eq.symm.trans hdatabase)
  obtain rfl := Except.ok.inj (b.snapshot_eq.symm.trans hsnapshot)
  have hof := of_prepare hprepare
  have horigin := Except.ok.inj (hof.origin_resolved.symm.trans b.origin_eq)
  have hdestination := Except.ok.inj (hof.destination_resolved.symm.trans b.destination_eq)
  exact ⟨hof.origin_id.trans (congrArg _ horigin),
    hof.destination_id.trans (congrArg _ hdestination)⟩

/-- What is prepared was prepared from a basis. -/
theorem nonempty_basis (h : (planner.prepared request w).1 = .ok p) :
    Nonempty (Basis planner request w) := by
  obtain ⟨database, snapshot, hseen, hprepare⟩ := prepared_eq_ok h
  obtain ⟨hdatabase, hsnapshot⟩ := survey_eq_ok (Prod.ext hseen rfl)
  have hof := of_prepare hprepare
  obtain ⟨rows, hrows, -⟩ := hof.rules_ofList
  exact ⟨⟨database, snapshot, rows, p.policy, p.origin.location, p.destination.location, hdatabase,
    hsnapshot, hrows, hof.policy_eq, hof.origin_resolved, hof.destination_resolved⟩⟩

/-- What may come of a request for where one is: a route, and the world after it. -/
structure Standing (planner : Planner) (w : World) (id : SystemId) (route : Route)
    (after : World) : Prop where
  /-- The graph leads nowhere. -/
  graph : route.source = .localGraph → route.StaysAt id
  /-- A route stays exactly when the oracle, if it is asked, says so. -/
  stays_iff : route.StaysAt id ↔ ∀ oracle call, planner.oracle = some oracle →
    after.calls = call :: w.calls → oracle w.calls.length call = .ok [id]
  /-- All others lead away and back. -/
  returns : ¬ route.StaysAt id → route.ReturnsTo id

/-- **What comes of a request with one system at both ends**: a route that stays there,
unless an oracle is asked and leads away and back. -/
theorem planRoute_standing (b : Basis planner request w)
    (hsame : b.origin.systemId = b.destination.systemId)
    (h : (planner.planRoute request w).1 = .ok route) :
    planner.Standing w b.origin.systemId route (planner.planRoute request w).2 := by
  obtain ⟨p, hprepared, hcame⟩ := planRoute_came h
  obtain ⟨horigin, hdestination⟩ := ids_of_prepared b hprepared
  have hends : p.origin.system.id = p.destination.system.id := by
    rw [horigin, hdestination, hsame]
  rw [← horigin]
  rcases hcame with ⟨hlocal, hroute, hcalls⟩ |
    ⟨oracle, call, path, systems, report, horacle, hcalls, hanswer, hpath, rfl⟩
  · obtain ⟨s, hs, hstanding⟩ := Prepared.routeLocally_of_same hlocal hends
    obtain rfl := Except.ok.inj (hroute.symm.trans hstanding)
    have hstays : (p.route [s] .localGraph 0 none).StaysAt p.origin.system.id :=
      Prepared.staysAt_route_iff.mpr (congrArg (fun id => [id]) hs)
    refine ⟨fun _ => hstays, iff_of_true hstays fun _ _ _ hasked => ?_, absurd hstays⟩
    exact absurd (hcalls.symm.trans hasked).symm (List.cons_ne_self _ _)
  · rw [← hends] at hpath
    have hstays : (p.route systems .oracle 0 report).StaysAt p.origin.system.id ↔
        path = [p.origin.system.id] :=
      Prepared.staysAt_route_of_accepts hpath
    refine ⟨nofun, hstays.trans ?_, fun hleaves => ?_⟩
    · -- the only call made is the one that was answered with the path
      constructor
      · rintro rfl other question hother hquestion
        obtain rfl := Option.some.inj (horacle.symm.trans hother)
        obtain rfl := (List.cons.inj (hcalls.symm.trans hquestion)).1
        exact hanswer
      · intro hall
        exact Except.ok.inj (hanswer.symm.trans (hall oracle call horacle hcalls))
    · exact Prepared.returnsTo_route_of_accepts hpath fun hpath => hleaves (hstays.mpr hpath)

end Planner

/-! ## At the reef -/

/-- A planner whose oracle knows one path. -/
def reefPilot (path : List SystemId) : Planner :=
  { reefPlanner with oracle := some fun _ _ => .ok path }

/-- A request from the first system to itself. -/
def reefStay : RouteRequest where
  origin := .number 1 .system
  destination := .number 1 .system

/-- Both its ends are that system. -/
theorem Basis.same_of_reefStay {planner : Planner} {w : World} (b : Basis planner reefStay w) :
    b.origin.systemId = b.destination.systemId := by
  obtain ⟨_, -, horigin⟩ := Gazetteer.resolve_number_eq_ok.mp b.origin_eq
  obtain ⟨_, -, hdestination⟩ := Gazetteer.resolve_number_eq_ok.mp b.destination_eq
  rw [horigin, hdestination]

namespace Planner

/-- An oracle that answers with the system alone is followed. -/
theorem planRoute_standing_reef :
    ∃ (route : Route) (b : Basis (reefPilot [1]) reefStay (reef none)),
      b.origin.systemId = b.destination.systemId ∧
      ((reefPilot [1]).planRoute reefStay (reef none)).1 = .ok route ∧
      route.path.map (·.systemId) = [1] ∧
      (reefPilot [1]).Standing (reef none) b.origin.systemId route
        ((reefPilot [1]).planRoute reefStay (reef none)).2 := by
  have hpath : (((reefPilot [1]).planRoute reefStay (reef none)).1.toOption.map
      fun route => route.path.map (·.systemId)) = some [1] := by
    decide +kernel
  obtain ⟨route, hroute, hpath⟩ := Option.map_eq_some_iff.mp hpath
  rw [toOption_eq_some_iff] at hroute
  obtain ⟨p, hprepared, -⟩ := planRoute_came hroute
  obtain ⟨b⟩ := nonempty_basis hprepared
  exact ⟨route, b, b.same_of_reefStay, hroute, hpath,
    planRoute_standing b b.same_of_reefStay hroute⟩

/-- An oracle that leads away and back is followed as well. -/
theorem planRoute_leaves_reef :
    ∃ (route : Route) (b : Basis (reefPilot [1, 3, 1]) reefStay (reef none)),
      b.origin.systemId = b.destination.systemId ∧
      ((reefPilot [1, 3, 1]).planRoute reefStay (reef none)).1 = .ok route ∧
      route.path.map (·.systemId) = [1, 3, 1] ∧ route.hopCount = 2 ∧
      route.classCounts = [(.pochven, 2)] ∧ ¬ route.StaysAt b.origin.systemId := by
  have hfacts : (((reefPilot [1, 3, 1]).planRoute reefStay (reef none)).1.toOption.map
      fun route => (route.path.map (·.systemId), route.hopCount, route.classCounts)) =
      some ([1, 3, 1], 2, [(.pochven, 2)]) := by
    decide +kernel
  obtain ⟨route, hroute, hfacts⟩ := Option.map_eq_some_iff.mp hfacts
  obtain ⟨hpath, hhops, hcounts⟩ : _ ∧ _ ∧ _ := by
    simpa only [Prod.mk.injEq] using hfacts
  rw [toOption_eq_some_iff] at hroute
  obtain ⟨p, hprepared, -⟩ := planRoute_came hroute
  obtain ⟨b⟩ := nonempty_basis hprepared
  refine ⟨route, b, b.same_of_reefStay, hroute, hpath, hhops, hcounts, fun hstays => ?_⟩
  cases hhops.symm.trans hstays.hopCount_eq

end Planner

end StarFreight
