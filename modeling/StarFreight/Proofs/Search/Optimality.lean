import StarFreight.Proofs.Search.Rounds
/-!
# Search — cheapest walks

What a search finds. Where moves lead, a system is settled or the frontier holds an
entry that costs no more than the way (`Sound.settled_or_exists_entry_le`): so the
goal, once it is the cheapest entry, is reached by no cheaper walk, and a frontier
without entries leaves no walk at all. The labels lead back from a system to
the start along a walk of the cost they show (`Sound.trace_eq`). Together these
say that a search finds a cheapest walk if there is one (`findRoute_cases`).
-/

namespace StarFreight

namespace Search

variable {ctx : SearchContext} {s goal u v : SystemId} {floor c : Nat} {state : Search}

namespace Sound

/-- **A chain of moves from a labelled system leads to a settled one, or passes through
the frontier** at an entry that costs no more than the way: it follows settled systems
until it comes to one that is not. -/
theorem settled_or_exists_entry_le (h : Sound ctx s goal floor noWaiver state)
    {path : List SystemId} (hhead : path.head? = some u) (hlast : path.getLast? = some v)
    (hmoves : path.IsChain (ctx.Move s goal)) (hcost : state.costOf? u = some c) :
    (∃ d, state.Settled v d) ∨ ∃ e ∈ state.frontier, e.cost ≤ c + ctx.walkCost goal path := by
  induction path generalizing u c with
  | nil => cases hhead
  | cons a path ih =>
    obtain rfl : a = u := by simpa using hhead
    -- either the entry of the label is still there, or the system is settled
    by_cases hopen : (⟨a, c⟩ : FrontierEntry) ∈ state.frontier
    · exact .inr ⟨_, hopen, Nat.le_add_right _ _⟩
    · have hsettled : state.Settled a c := ⟨hcost, hopen⟩
      cases path with
      | nil =>
        obtain rfl : a = v := by simpa using hlast
        exact .inl ⟨c, hsettled⟩
      | cons b path =>
        obtain ⟨hmove, hrest⟩ := List.isChain_cons_cons.mp hmoves
        obtain ⟨d, hd, hlabel⟩ := (h.relaxed a c b hsettled hmove).resolve_left id
        rw [List.getLast?_cons_cons] at hlast
        refine (ih rfl hlast hrest hlabel).imp_right fun ⟨e, he, hle⟩ => ⟨e, he, ?_⟩
        simp only [SearchContext.walkCost]
        omega

/-- **A walk to the goal passes through the frontier**, at an entry that costs no
more than the walk: the goal is never settled. -/
theorem exists_entry_le (h : Sound ctx s goal floor noWaiver state) {path : List SystemId}
    (hhead : path.head? = some u) (hlast : path.getLast? = some goal)
    (hmoves : path.IsChain (ctx.Move s goal)) (hcost : state.costOf? u = some c) :
    ∃ e ∈ state.frontier, e.cost ≤ c + ctx.walkCost goal path :=
  (h.settled_or_exists_entry_le hhead hlast hmoves hcost).resolve_left fun ⟨d, hd⟩ =>
    h.goal_open d hd

/-- **The labels lead back to the start** along a trail of the cost of the label,
in as many steps at most. -/
theorem trace_eq (h : Sound ctx s goal floor noWaiver state) {steps : Nat}
    (hcost : state.costOf? v = some c) (hsteps : c ≤ steps) (behind : List SystemId) :
    ∃ path, trace state.labels steps v behind = path ++ behind ∧ ctx.Trail s goal v path ∧
      ctx.walkCost goal path = c := by
  -- every step back is to a cheaper label, so the cost bounds the steps
  induction steps generalizing v c behind with
  | zero =>
    obtain ⟨label, hlabel, rfl⟩ := Option.map_eq_some_iff.mp hcost
    by_cases hv : v = s
    · subst hv
      rw [h.start] at hlabel
      obtain rfl := Option.some.inj hlabel
      exact ⟨[v], by simp [trace, h.start], .start, rfl⟩
    · obtain ⟨u, d, -, -, hmove, hsum⟩ := h.parent v label hlabel hv
      have := hmove.cost_pos
      omega
  | succ steps ih =>
    obtain ⟨label, hlabel, rfl⟩ := Option.map_eq_some_iff.mp hcost
    by_cases hv : v = s
    · subst hv
      rw [h.start] at hlabel
      obtain rfl := Option.some.inj hlabel
      exact ⟨[v], by simp [trace, h.start], .start, rfl⟩
    · obtain ⟨u, d, hparent, hsettled, hmove, hsum⟩ := h.parent v label hlabel hv
      have hpos := hmove.cost_pos
      obtain ⟨path, htrace, htrail, hwalk⟩ :=
        ih hsettled.1 (by omega) (v :: behind)
      have hgoal : u ≠ goal := fun hu => h.goal_open d (hu ▸ hsettled)
      refine ⟨path ++ [v], ?_, htrail.concat hgoal hmove, ?_⟩
      · simp only [trace, hlabel, hparent, htrace, List.append_assoc, List.cons_append,
          List.nil_append]
      · rw [SearchContext.walkCost_concat htrail.last, hwalk, hsum]

end Sound

end Search

namespace SearchContext

variable {ctx : SearchContext} {s goal : SystemId} {found : RouteFound}

/-- **A search finds a cheapest walk, or there is none.** -/
theorem findRoute_cases (ctx : SearchContext) (hne : s ≠ goal) :
    (ctx.findRoute s goal = none ∧ ¬ ∃ path, ctx.Walk s goal path) ∨
      ∃ found, ctx.findRoute s goal = some found ∧ ctx.Walk s goal found.path ∧
        found.cost = ctx.walkCost goal found.path ∧
        ∀ path, ctx.Walk s goal path → found.cost ≤ ctx.walkCost goal path := by
  obtain ⟨last, floor, hsound, hend⟩ :=
    Search.run_cases (Search.sound_start ctx s goal) (Search.budget_start_lt ctx s)
  have hstart : last.costOf? s = some 0 := by rw [Search.costOf?, hsound.start]; rfl
  rcases hend with ⟨hfrontier, hrun⟩ | ⟨cost, rest, hfrontier, hcost, hrun⟩
  · refine .inl ⟨by rw [findRoute, if_neg hne, hrun]; rfl, ?_⟩
    rintro ⟨path, hwalk⟩
    obtain ⟨e, he, -⟩ := hsound.exists_entry_le hwalk.head hwalk.last hwalk.moves hstart
    rw [hfrontier] at he
    cases he
  · obtain ⟨path, htrace, hwalk, hpath⟩ := hsound.trace_eq hcost le_rfl []
    rw [List.append_nil] at htrace
    refine .inr ⟨_, by rw [findRoute, if_neg hne, hrun]; rfl, ?_, ?_, fun other hother => ?_⟩
    · simpa only [htrace] using hwalk
    · simpa only [htrace] using hpath.symm
    · -- the goal is the cheapest entry, and the other walk passes through one
      obtain ⟨e, he, hle⟩ := hsound.exists_entry_le hother.head hother.last hother.moves hstart
      have hfirst : cost ≤ e.cost := hsound.ordered.head_le hfrontier he
      simp only
      omega

/-- From a system to itself there is a route exactly when the graph has it. -/
theorem findRoute_self (ctx : SearchContext) (s : SystemId) :
    ctx.findRoute s s = if ctx.snapshot.contains s then some ⟨[s], 0, 0⟩ else none := by
  rw [findRoute, if_pos rfl]

/-- **What a route is that was found**: that of a system to itself, which costs nothing, or a
cheapest walk. -/
theorem cases_of_findRoute (h : ctx.findRoute s goal = some found) :
    (s = goal ∧ ctx.snapshot.contains s = true ∧ found = ⟨[s], 0, 0⟩) ∨
      s ≠ goal ∧ ctx.Walk s goal found.path ∧ found.cost = ctx.walkCost goal found.path ∧
        ∀ path, ctx.Walk s goal path → found.cost ≤ ctx.walkCost goal path := by
  by_cases hne : s = goal
  · subst hne
    rw [findRoute_self] at h
    split at h
    · next hs => exact .inl ⟨rfl, hs, (Option.some.inj h).symm⟩
    · cases h
  · rcases ctx.findRoute_cases hne with ⟨hnone, -⟩ | ⟨other, hother, hroute⟩
    · rw [hnone] at h
      cases h
    · rw [hother] at h
      obtain rfl := Option.some.inj h
      exact .inr ⟨hne, hroute⟩

/-- The route found is a walk. -/
theorem walk_of_findRoute (h : ctx.findRoute s goal = some found) :
    ctx.Walk s goal found.path := by
  rcases cases_of_findRoute h with ⟨rfl, -, rfl⟩ | ⟨-, hwalk, -, -⟩
  · exact .start
  · exact hwalk

/-- The cost of the route found is that of its moves. -/
theorem cost_of_findRoute (h : ctx.findRoute s goal = some found) :
    found.cost = ctx.walkCost goal found.path := by
  rcases cases_of_findRoute h with ⟨rfl, -, rfl⟩ | ⟨-, -, hcost, -⟩
  · rfl
  · exact hcost

/-- No walk costs less than the route found. -/
theorem walkCost_le_of_findRoute {path : List SystemId} (h : ctx.findRoute s goal = some found)
    (hwalk : ctx.Walk s goal path) : ctx.walkCost goal found.path ≤ ctx.walkCost goal path := by
  rcases cases_of_findRoute h with ⟨rfl, -, rfl⟩ | ⟨-, -, hcost, hmin⟩
  · exact Nat.zero_le _
  · exact hcost ▸ hmin path hwalk

/-- There is a route from a system to itself if the graph has it, and from one to another
if there is a walk. -/
theorem exists_findRoute_of_walk {path : List SystemId}
    (hs : s = goal → ctx.snapshot.contains s = true) (hwalk : ctx.Walk s goal path) :
    ∃ found, ctx.findRoute s goal = some found := by
  by_cases hne : s = goal
  · subst hne
    exact ⟨_, (ctx.findRoute_self s).trans (if_pos (hs rfl))⟩
  · rcases ctx.findRoute_cases hne with ⟨-, hnone⟩ | ⟨found, hfound, -⟩
    · exact absurd ⟨path, hwalk⟩ hnone
    · exact ⟨found, hfound⟩

/-- A route from a system to itself is found where the graph has it. -/
theorem contains_of_findRoute (h : ctx.findRoute s goal = some found) (heq : s = goal) :
    ctx.snapshot.contains s = true := by
  rcases cases_of_findRoute h with ⟨-, hs, -⟩ | ⟨hne, -⟩
  · exact hs
  · exact absurd heq hne

/-- **The route found is a cheapest walk**: it is one, its cost is that of its moves,
and no walk costs less. -/
theorem findRoute_optimal (h : ctx.findRoute s goal = some found) :
    ctx.Walk s goal found.path ∧ found.cost = ctx.walkCost goal found.path ∧
      ∀ path, ctx.Walk s goal path → found.cost ≤ ctx.walkCost goal path := by
  by_cases hne : s = goal
  · subst hne
    rw [findRoute_self] at h
    split at h
    · obtain rfl := Option.some.inj h
      exact ⟨.start, rfl, fun _ _ => Nat.zero_le _⟩
    · cases h
  · rcases ctx.findRoute_cases hne with ⟨hnone, -⟩ | ⟨other, hother, hroute⟩
    · rw [hnone] at h
      cases h
    · rw [hother] at h
      obtain rfl := Option.some.inj h
      exact hroute

/-- A way round through three systems of high security, and a shorter one through
low security that is dearer under the balanced profile; the connection back to
the start and a system that nobody knows are of no use. -/
def diamond : SearchContext where
  snapshot :=
    .ofGraph
      (.ofArcs
        ([1, 2, 3, 4, 5].map fun id =>
          { id, name := "", security := 0, constellation := 10 * id, region := 1 })
        [(1, 2), (2, 1), (2, 3), (3, 4), (1, 5), (5, 4), (3, 9), (9, 4)])
      { minNodes := 1, critical := [] } 1
  rules := .ofList [{ id := 1, scope := .constellation 20, severity := 1 }]
  policy :=
    { zones := [{ category := .lowsec, systems := [5] }, { category := .highsec, regions := [1] }] }
  profile := .balanced

/-- Through low security the walk costs 4, and through the constellation with the
soft rule 6. -/
theorem findRoute_optimal_diamond :
    diamond.findRoute 1 4 = some ⟨[1, 5, 4], 4, 0⟩ ∧ diamond.Walk 1 4 [1, 5, 4] ∧
      4 = diamond.walkCost 4 [1, 5, 4] ∧
      ∀ path, diamond.Walk 1 4 path → 4 ≤ diamond.walkCost 4 path :=
  have h : diamond.findRoute 1 4 = some ⟨[1, 5, 4], 4, 0⟩ := by decide +kernel
  ⟨h, findRoute_optimal h⟩

/-- Between systems of which the first is known, there is a route exactly when there
is a walk. -/
theorem findRoute_isSome_iff (hs : ctx.snapshot.contains s = true) :
    (ctx.findRoute s goal).isSome = true ↔ ∃ path, ctx.Walk s goal path := by
  by_cases hne : s = goal
  · subst hne
    rw [findRoute_self, if_pos hs]
    exact ⟨fun _ => ⟨[s], .start⟩, fun _ => rfl⟩
  · rcases ctx.findRoute_cases hne with ⟨hnone, hwalk⟩ | ⟨found, hfound, hwalk, -, -⟩
    · rw [hnone]
      exact ⟨fun h => absurd h Bool.false_ne_true, fun h => absurd h hwalk⟩
    · rw [hfound]
      exact ⟨fun _ => ⟨_, hwalk⟩, fun _ => rfl⟩

/-- **A search ends, and finds nothing only where there is nothing to find.** Its loop
comes to an end by itself with what the bounded run returns; there is no route
exactly when there is no walk, or, from a system to itself, when the graph lacks
it. -/
theorem findRoute_complete (ctx : SearchContext) (s goal : SystemId) :
    Search.Ends ctx s goal (Search.start s)
        (Search.run ctx s goal ctx.rounds (Search.start s)) ∧
      (ctx.findRoute s goal = none ↔
        if s = goal then ctx.snapshot.contains s = false
        else ¬ ∃ path, ctx.Walk s goal path) := by
  refine ⟨Search.ends_run_start ctx s goal, ?_⟩
  by_cases hne : s = goal
  · subst hne
    rw [findRoute_self, if_pos rfl]
    cases ctx.snapshot.contains s <;> simp
  · rw [if_neg hne]
    rcases ctx.findRoute_cases hne with ⟨hnone, hwalk⟩ | ⟨found, hfound, hwalk, -, -⟩
    · exact ⟨fun _ => hwalk, fun _ => hnone⟩
    · rw [hfound]
      constructor
      · intro h
        cases h
      · intro h
        exact absurd ⟨_, hwalk⟩ h

end SearchContext

end StarFreight
