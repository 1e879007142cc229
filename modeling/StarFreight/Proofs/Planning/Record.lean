import StarFreight.Proofs.Planning.Standing
/-!
# Planning — what a route says of itself

A route is put together in several passes over the systems on its path, and no pass
looks at what another has made. They agree because the systems are those of the path,
none left out: a walk that was searched keeps to systems that the graph has
(`forall₂_of_walk`), and a path that is judged has all its systems looked up
(`PathJudge.Accepts`). So jumps, classes, counts and acknowledgements can each be read
off the path (`Basis.Records`), whichever source it came from (`Basis.Yields`).
-/

namespace StarFreight

/-! ## Counts of classes -/

section Tally

variable {classes : List SecurityClass} {c : SecurityClass} {n : Nat}

/-- **A class is counted as often as it occurs**, and not at all when it does not. -/
theorem mem_tallyClasses : (c, n) ∈ tallyClasses classes ↔ n = classes.count c ∧ n ≠ 0 := by
  simp only [tallyClasses, List.mem_filter, List.mem_map, Prod.mk.injEq, bne_iff_ne]
  constructor
  · rintro ⟨⟨d, -, rfl, rfl⟩, hn⟩
    exact ⟨rfl, hn⟩
  · rintro ⟨rfl, hn⟩
    exact ⟨⟨c, c.mem_all, rfl, rfl⟩, hn⟩

/-- The classes are listed in their order. -/
theorem SecurityClass.pairwise_all : all.Pairwise fun c d => c.ctorIdx < d.ctorIdx := by
  decide

/-- Classes are counted in their order, each once. -/
theorem pairwise_tallyClasses (classes : List SecurityClass) :
    ((tallyClasses classes).map (·.1)).Pairwise fun c d => c.ctorIdx < d.ctorIdx := by
  rw [List.pairwise_map]
  refine List.Pairwise.filter _ (List.pairwise_map.mpr ?_)
  exact SecurityClass.pairwise_all

/-- Over all classes the counts make up the whole. -/
theorem sum_count_all (classes : List SecurityClass) :
    (SecurityClass.all.map fun c => classes.count c).sum = classes.length := by
  induction classes with
  | nil => rfl
  | cons c classes ih =>
    simp only [SecurityClass.all, List.map_cons, List.map_nil, List.sum_cons, List.sum_nil,
      List.length_cons, List.count_cons] at ih ⊢
    cases c <;> simp <;> omega

/-- Counts that are left out add nothing. -/
theorem sum_filter_ne_zero (entries : List (SecurityClass × Nat)) :
    ((entries.filter fun entry => entry.2 != 0).map (·.2)).sum = (entries.map (·.2)).sum := by
  induction entries with
  | nil => rfl
  | cons entry entries ih =>
    by_cases hzero : entry.2 = 0
    · simp [hzero, ih]
    · simp [hzero, ih]

/-- **The counts sum to the number of systems counted.** -/
theorem sum_tallyClasses (classes : List SecurityClass) :
    ((tallyClasses classes).map (·.2)).sum = classes.length := by
  rw [tallyClasses, sum_filter_ne_zero, List.map_map]
  exact sum_count_all classes

/-- **The classes to be acknowledged** are those that occur and ask for it. -/
theorem mem_acknowledgementsFor {policy : Policy} : c ∈ acknowledgementsFor policy classes ↔
    c ∈ classes ∧ (policy.rules.get c).requiresAcknowledgement = true := by
  simp [acknowledgementsFor, c.mem_all]

/-- The classes to be acknowledged are listed in their order. -/
theorem pairwise_acknowledgementsFor (policy : Policy) (classes : List SecurityClass) :
    (acknowledgementsFor policy classes).Pairwise fun c d => c.ctorIdx < d.ctorIdx :=
  SecurityClass.pairwise_all.filter _

end Tally

namespace Prepared

variable {p : Prepared} {systems : List StarSystem} {source : RouteSource} {excluded : Nat}
  {report : Option BackfillReport}

/-- The classes on a route are those of the systems it is put together from. -/
theorem categories_route : (p.route systems source excluded report).path.map (·.category) =
    systems.map p.policy.classify := by
  simp only [route, List.map_map]
  rfl

/-- The counts of a route sum to its jumps: the first system is not entered. -/
theorem sum_classCounts_route :
    ((p.route systems source excluded report).classCounts.map (·.2)).sum =
      (p.route systems source excluded report).hopCount := by
  refine (sum_tallyClasses _).trans ?_
  rw [List.length_tail, List.length_map]
  rfl

end Prepared

namespace Basis

variable {planner : Planner} {request : RouteRequest} {w : World} {route : Route}
  {path : List SystemId}

/-- What a search for the request consults. -/
def context (b : Basis planner request w) : SearchContext where
  snapshot := b.snapshot
  rules := .ofList b.rules
  policy := b.policy
  profile := request.profile

/-- A path that the graph or an oracle yields for a request, and what a route says of
where it came from. -/
inductive Yields (b : Basis planner request w) (after : World) :
    Route → List SystemId → Prop
  /-- It is the path searched, and nothing is written. -/
  | searched {route : Route} {found : RouteFound}
      (hfound : b.context.findRoute b.origin.systemId b.destination.systemId = some found)
      (hsource : route.source = .localGraph) (hexcluded : route.securityExcluded = found.excluded)
      (hbackfill : route.backfill = none) : Yields b after route found.path
  /-- It is the answer to the one question asked, and security has refused nothing. -/
  | answered {route : Route} {path : List SystemId} {oracle : Oracle} {call : OracleCall}
      (horacle : planner.oracle = some oracle) (hcall : after.calls = call :: w.calls)
      (hanswer : oracle w.calls.length call = .ok path) (hsource : route.source = .oracle)
      (hexcluded : route.securityExcluded = 0) : Yields b after route path

/-- A route whose figures agree with the path it runs along. -/
structure Records (b : Basis planner request w) (route : Route) (path : List SystemId) : Prop where
  /-- Its steps are the systems of the path, none left out. -/
  ids : route.path.map (·.systemId) = path
  /-- Each step has the class that the policy gives the system. -/
  classes : List.Forall₂ (fun id step => ∃ s,
    b.database.knownSystem? b.snapshot id = .ok (some s) ∧ step = b.policy.step s ∧
      step.category = b.policy.classify s) path route.path
  /-- There is one jump less than there are systems. -/
  hops : route.hopCount + 1 = path.length
  /-- Every class is counted as often as the steps after the first have it. -/
  counts : ∀ c n, (c, n) ∈ route.classCounts ↔
    n = (route.path.tail.map (·.category)).count c ∧ n ≠ 0
  counts_ascending : (route.classCounts.map (·.1)).Pairwise fun c d => c.ctorIdx < d.ctorIdx
  counts_sum : (route.classCounts.map (·.2)).sum = route.hopCount
  /-- To be acknowledged are the classes on it, the first included, whose rule asks for
  that. -/
  acknowledged : ∀ c, c ∈ route.acknowledgements ↔
    c ∈ route.path.map (·.category) ∧ (b.policy.rules.get c).requiresAcknowledgement = true
  acknowledged_ascending : route.acknowledgements.Pairwise fun c d => c.ctorIdx < d.ctorIdx
  /-- Every rule in force is counted as hard or as soft. -/
  rules_sum : route.hardRuleCount + route.softRuleCount = b.rules.length

/-- **A route records the path of the systems it is put together from**, if these are
known under its numbers. -/
theorem records_route {b : Basis planner request w} {p : Prepared} {systems : List StarSystem}
    {source : RouteSource} {excluded : Nat} {report : Option BackfillReport}
    (hcontext : b.context = p.context)
    (hknown : List.Forall₂ (fun id s => b.database.knownSystem? b.snapshot id = .ok (some s))
      path systems) {start : SystemId} (hhead : path.head? = some start) :
    b.Records (p.route systems source excluded report) path := by
  have hpolicy : b.policy = p.policy := congrArg SearchContext.policy hcontext
  have hrules : RuleSet.ofList b.rules = p.rules := congrArg SearchContext.rules hcontext
  exact {
    ids := Prepared.ids_route.trans (Database.ids_of_knownSystem? hknown)
    classes := by
      rw [hpolicy]
      exact List.forall₂_map_right_iff.mpr (hknown.imp fun _ s hs => ⟨s, hs, rfl, rfl⟩)
    hops := by
      have hpos := List.length_pos_of_mem (List.mem_of_mem_head? hhead)
      have hlength := hknown.length_eq
      show systems.length - 1 + 1 = path.length
      omega
    counts := fun c n => by
      rw [List.map_tail, Prepared.categories_route]
      exact mem_tallyClasses
    counts_ascending := pairwise_tallyClasses _
    counts_sum := Prepared.sum_classCounts_route
    acknowledged := fun c => by
      rw [Prepared.categories_route, hpolicy]
      exact mem_acknowledgementsFor
    acknowledged_ascending := pairwise_acknowledgementsFor _ _
    rules_sum := by
      rw [← RuleSet.hardCount_add_softCount_ofList, hrules]
      rfl }

end Basis

namespace Planner

variable {planner : Planner} {request : RouteRequest} {w : World} {route : Route} {p : Prepared}

/-- What is prepared has a basis, and is looked for with what that says. -/
theorem exists_basis (h : (planner.prepared request w).1 = .ok p) :
    ∃ b : Basis planner request w, b.context = p.context ∧ b.database = p.database ∧
      b.origin.systemId = p.origin.system.id ∧
      b.destination.systemId = p.destination.system.id := by
  obtain ⟨database, snapshot, hseen, hprepare⟩ := prepared_eq_ok h
  obtain ⟨hdatabase, hsnapshot⟩ := survey_eq_ok (Prod.ext hseen rfl)
  have hof := of_prepare hprepare
  obtain ⟨rows, hrows, hrules⟩ := hof.rules_ofList
  refine ⟨⟨database, snapshot, rows, p.policy, p.origin.location, p.destination.location, hdatabase,
    hsnapshot, hrows, hof.policy_eq, hof.origin_resolved, hof.destination_resolved⟩, ?_,
    hof.database_eq.symm, hof.origin_id.symm, hof.destination_id.symm⟩
  simp only [Basis.context, Basis.rules, Prepared.context, hof.snapshot_eq, hof.profile_eq, hrules]

/-- **A route that is planned records the path it came from**, the one that was searched
or the oracle's answer. -/
theorem planRoute_records (h : (planner.planRoute request w).1 = .ok route) :
    ∃ (b : Basis planner request w) (path : List SystemId),
      b.Yields (planner.planRoute request w).2 route path ∧ b.Records route path := by
  obtain ⟨p, hprepared, hcame⟩ := planRoute_came h
  obtain ⟨b, hcontext, hdatabase, horigin, hdestination⟩ := exists_basis hprepared
  have hsnapshot : b.snapshot = p.snapshot := congrArg SearchContext.snapshot hcontext
  rcases hcame with ⟨hlocal, hroute, -⟩ |
    ⟨oracle, call, path, systems, report, horacle, hcall, hanswer, hpath, rfl⟩
  · obtain ⟨found, hfound, rfl⟩ := Prepared.routeLocally_eq_ok.mp hroute
    have hwalk := SearchContext.walk_of_findRoute hfound
    refine ⟨b, found.path, .searched ?_ rfl rfl rfl, Basis.records_route hcontext ?_ hwalk.head⟩
    · rwa [hcontext, horigin, hdestination]
    · rw [hsnapshot]
      exact (Prepared.forall₂_of_walk hlocal hwalk).imp fun _ _ => Database.knownSystem?_of_system?
  · refine ⟨b, path, .answered horacle hcall hanswer rfl rfl,
      Basis.records_route hcontext ?_ hpath.head⟩
    rw [hdatabase, hsnapshot]
    exact hpath.known

/-- An oracle that comes back to the first system: the path has three steps and two jumps,
into a class that has to be acknowledged. -/
theorem planRoute_records_reef :
    ∃ route, ((reefPilot [1, 3, 1]).planRoute reefStay (reef none)).1 = .ok route ∧
      route.path.map (·.systemId) = [1, 3, 1] ∧ route.classCounts = [(.pochven, 2)] ∧
      route.acknowledgements = [.pochven] ∧
      ∃ (b : Basis (reefPilot [1, 3, 1]) reefStay (reef none)) (path : List SystemId),
        b.Yields ((reefPilot [1, 3, 1]).planRoute reefStay (reef none)).2 route path ∧
          b.Records route path := by
  have hfacts : (((reefPilot [1, 3, 1]).planRoute reefStay (reef none)).1.toOption.map
      fun route => (route.path.map (·.systemId), route.classCounts, route.acknowledgements)) =
      some ([1, 3, 1], [(.pochven, 2)], [.pochven]) := by
    decide +kernel
  obtain ⟨route, hroute, hfacts⟩ := Option.map_eq_some_iff.mp hfacts
  obtain ⟨hpath, hcounts, hacknowledged⟩ : _ ∧ _ ∧ _ := by
    simpa only [Prod.mk.injEq] using hfacts
  rw [toOption_eq_some_iff] at hroute
  exact ⟨route, hroute, hpath, hcounts, hacknowledged, planRoute_records hroute⟩

end Planner

end StarFreight
