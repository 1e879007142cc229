import StarFreight.Proofs.Avoidance.Buckets
import StarFreight.Proofs.Planning.Outcome
import StarFreight.Proofs.Search.Optimality
/-!
# Planning — what a failed search is put down to

A request that can be routed locally ends in one of three ways: with a route,
blocked by hard rules alone, or without any way. Which one it is depends on
walks only, with the hard rules and without them (`routeLocally_cases`). That
hard rules are counted before the second search decides nothing: where there are
none, the second search is the first again (`searchFailure_eq_diagnosis`).
-/

namespace StarFreight

namespace Prepared

variable {p : Prepared} {database : Database} {snapshot : Snapshot} {request : RouteRequest}

/-- The failure of a search, told without counting the hard rules. -/
def diagnosis (p : Prepared) : Failure :=
  let origin := p.origin.system
  let destination := p.destination.system
  if (p.context.withoutHard.findRoute origin.id destination.id).isSome then
    p.graphFailure (.blockedByRules origin.name destination.name)
  else p.graphFailure (.noRoute origin.name destination.name)

/-- **To count the hard rules first decides nothing** about a search that found no
route. -/
theorem searchFailure_eq_diagnosis (h : p.Of database snapshot request)
    (hnone : p.context.findRoute p.origin.system.id p.destination.system.id = none) :
    p.searchFailure = p.diagnosis := by
  unfold searchFailure diagnosis
  by_cases hcount : p.rules.hardCount > 0
  · simp only [hcount, true_and]
  · -- without hard rules there is nothing to drop, and both searches are one
    obtain ⟨rows, -, hrules⟩ := h.rules_ofList
    have hsame : p.context.withoutHard = p.context := by
      have hzero : p.rules.withoutHard = p.rules := by
        rw [hrules] at hcount ⊢
        exact RuleSet.withoutHard_of_hardCount_eq_zero (by omega)
      rw [SearchContext.withoutHard, show p.context.rules = p.rules from rfl, hzero]
      rfl
    simp only [hcount, false_and, if_false, hsame, hnone, Option.isSome_none, Bool.false_eq_true]

/-- A walk leads from the one end to the other, in a context to search in. -/
def Connects (p : Prepared) (ctx : SearchContext) : Prop :=
  ∃ path, ctx.Walk p.origin.system.id p.destination.system.id path

/-- What connects the ends still does when the hard rules go. -/
theorem Connects.withoutHard {ctx : SearchContext} (h : p.Connects ctx) :
    p.Connects ctx.withoutHard := by
  obtain ⟨path, hwalk⟩ := h
  exact ⟨path, SearchContext.Walk.withoutHard hwalk⟩

/-- A search in the graph of a local request finds a route exactly when a walk
connects the ends. -/
theorem findRoute_isSome_iff_connects (hlocal : p.isLocal = true) (ctx : SearchContext)
    (hctx : ctx.snapshot = p.snapshot) :
    (ctx.findRoute p.origin.system.id p.destination.system.id).isSome = true ↔
      p.Connects ctx := by
  refine SearchContext.findRoute_isSome_iff ?_
  rw [hctx]
  exact (isLocal_iff.mp hlocal).2.1

/-- **The three ways in which a local search ends.** -/
theorem routeLocally_cases (h : p.Of database snapshot request) (hlocal : p.isLocal = true) :
    (p.Connects p.context ∧ ∃ route, p.routeLocally = .ok route ∧ route.source = .localGraph) ∨
      (¬ p.Connects p.context ∧ p.routeLocally = .error p.diagnosis ∧
        ((p.Connects p.context.withoutHard ∧
            p.diagnosis.cause.reason = .blockedByAvoidanceRules) ∨
          (¬ p.Connects p.context.withoutHard ∧ p.diagnosis.cause.reason = .noRoute))) := by
  have hwith := findRoute_isSome_iff_connects hlocal p.context rfl
  have hwithout := findRoute_isSome_iff_connects hlocal p.context.withoutHard rfl
  cases hfound : p.context.findRoute p.origin.system.id p.destination.system.id with
  | some found =>
    rw [hfound] at hwith
    exact .inl ⟨hwith.mp rfl, _, routeLocally_eq_ok.mpr ⟨found, hfound, rfl⟩, rfl⟩
  | none =>
    rw [hfound] at hwith
    refine .inr ⟨fun hwalk => Bool.false_ne_true (hwith.mpr hwalk), ?_, ?_⟩
    · rw [routeLocally, hfound, ← searchFailure_eq_diagnosis h hfound]
    · unfold diagnosis
      by_cases hfree : p.Connects p.context.withoutHard
      · exact .inl ⟨hfree, by rw [if_pos (hwithout.mpr hfree)]; rfl⟩
      · exact .inr ⟨hfree, by rw [if_neg (fun hsome => hfree (hwithout.mp hsome))]; rfl⟩

end Prepared

namespace Planner

variable {planner : Planner} {request : RouteRequest} {w after : World} {database : Database}
  {snapshot : Snapshot} {p : Prepared}

/-- **A local request is answered by what walks there are**: with a route if one
connects the ends, as blocked if one does once the hard rules are gone, and as
without any way if even then none does. -/
theorem planRoute_verdict (hsurvey : planner.survey w = (.ok (database, snapshot), after))
    (hprepare : prepare database snapshot request = .ok p) (hlocal : p.isLocal = true) :
    ((∃ route, (planner.planRoute request w).1 = .ok route ∧ route.source = .localGraph) ↔
        p.Connects p.context) ∧
      ((∃ failure, (planner.planRoute request w).1 = .error failure ∧
          failure.cause.reason = .blockedByAvoidanceRules) ↔
        ¬ p.Connects p.context ∧ p.Connects p.context.withoutHard) ∧
      ((∃ failure, (planner.planRoute request w).1 = .error failure ∧
          failure.cause.reason = .noRoute) ↔ ¬ p.Connects p.context.withoutHard) ∧
      (∀ route, (planner.planRoute request w).1 = .ok route → route.source = .localGraph) ∧
      (∀ failure, (planner.planRoute request w).1 = .error failure → failure = p.diagnosis ∧
        (failure.cause.reason = .blockedByAvoidanceRules ∨ failure.cause.reason = .noRoute)) := by
  rw [planRoute_of_isLocal hsurvey hprepare hlocal]
  rcases Prepared.routeLocally_cases (of_prepare hprepare) hlocal with
    ⟨hwalk, route, hroute, hsource⟩ | ⟨hwalk, hroute, ⟨hfree, hreason⟩ | ⟨hfree, hreason⟩⟩
  · simp [hroute, hwalk, hwalk.withoutHard, hsource]
  · simp [hroute, hwalk, hfree, hreason]
  · simp [hroute, hwalk, hfree, hreason]

/-- A hard rule on the constellation between the ends blocks both ways: no walk is
left, and there is one without the rule. -/
theorem planRoute_verdict_lagoon :
    ∃ p, prepare (lagoonTables "constellation" 20) lagoonChart lagoonRequest = .ok p ∧
      p.isLocal = true ∧ ¬ p.Connects p.context ∧ p.Connects p.context.withoutHard := by
  have hlocal : (prepare (lagoonTables "constellation" 20) lagoonChart
      lagoonRequest).toOption.map (·.isLocal) = some true := by
    decide +kernel
  have hblocked : (match (lagoonPlanner.planRoute lagoonRequest (lagoon "constellation" 20)).1 with
      | .ok _ => none
      | .error failure => some failure.cause.reason) = some .blockedByAvoidanceRules := by
    decide +kernel
  have hsurvey : lagoonPlanner.survey (lagoon "constellation" 20) =
      (.ok (lagoonTables "constellation" 20, lagoonChart), lagoon "constellation" 20) := rfl
  generalize hprepare : prepare (lagoonTables "constellation" 20) lagoonChart lagoonRequest =
    prepared at hlocal ⊢
  cases prepared with
  | error failure => cases hlocal
  | ok p =>
    have hlocal : p.isLocal = true := Option.some.inj hlocal
    refine ⟨p, rfl, hlocal, (planRoute_verdict hsurvey hprepare hlocal).2.1.mp ?_⟩
    generalize (lagoonPlanner.planRoute lagoonRequest (lagoon "constellation" 20)).1 = planned
      at hblocked ⊢
    cases planned with
    | ok route => cases hblocked
    | error failure => exact ⟨failure, rfl, Option.some.inj hblocked⟩

end Planner

end StarFreight
