import StarFreight.Proofs.Search.Optimality
/-!
# Search — the course of a search

The systems that a search goes on from, in order. The course of a search is the list of its
states before each round, and a round goes on from the first entry of the frontier
unless that was overtaken or is the goal's (`goingFrom?`); the systems settled are those
gone on from (`settled_onward`). What every round on keeps holds of the search that takes
the goal off its frontier, with all its expansions behind it (`exists_arrival`).
-/

namespace StarFreight

namespace Search

/-- The states of a search before each of its rounds, of which there are at most the given
number. -/
def course (ctx : SearchContext) (s goal : SystemId) : Nat → Search → List Search
  | 0, _ => []
  | rounds + 1, state =>
    match advance ctx s goal state with
    | .onward after => state :: course ctx s goal rounds after
    | _ => [state]

/-- The entry that the next round goes on from: the first one, unless it was overtaken or is
the goal's. -/
def goingFrom? (goal : SystemId) (state : Search) : Option FrontierEntry :=
  state.frontier.head?.filter fun entry =>
    (state.costOf? entry.node).any (entry.cost ≤ ·) && entry.node != goal

end Search

/-- The entries that a search from `s` to `goal` goes on from, in order. -/
def SearchContext.expansions (ctx : SearchContext) (s goal : SystemId) : List FrontierEntry :=
  (Search.course ctx s goal ctx.rounds (Search.start s)).filterMap (Search.goingFrom? goal)

namespace Search

variable {ctx : SearchContext} {s goal u : SystemId} {floor rounds c cost : Nat}
  {state after last : Search} {done : List FrontierEntry}

/-! ## One round on -/

/-- The floor may be raised as far as the entries allow. -/
theorem Sound.raise {floor' : Nat} (h : Sound ctx s goal floor noWaiver state)
    (hle : floor ≤ floor') (hentries : ∀ e ∈ state.frontier, floor' ≤ e.cost) :
    Sound ctx s goal floor' noWaiver state :=
  { h with
    entry := fun e he => ⟨hentries e he, (h.entry e he).2⟩
    settled_le := fun u c hu => le_trans (h.settled_le u c hu) hle }

/-- **What a round on leads to.** It takes the first entry, and the floor rises to its cost. An
entry that was overtaken is dropped, which changes nothing but the frontier; from any other the
search goes on. -/
theorem onward_cases (h : Sound ctx s goal floor noWaiver state)
    (hround : advance ctx s goal state = .onward after) :
    ∃ entry rest, state.frontier = entry :: rest ∧ floor ≤ entry.cost ∧
      Sound ctx s goal entry.cost noWaiver after ∧
      ((goingFrom? goal state = none ∧ after = { state with frontier := rest } ∧
          ∀ u c, after.Settled u c ↔ state.Settled u c) ∨
        goingFrom? goal state = some entry ∧
          after = expand ctx s goal entry.node entry.cost { state with frontier := rest } ∧
          ∀ u c, after.Settled u c ↔ state.Settled u c ∨ entry = ⟨u, c⟩) := by
  have hstep := roundStep_advance h
  rw [hround] at hstep
  cases hstep with
  | @overtaken entry rest c hfrontier hcost hlt =>
    have hfloor : floor ≤ entry.cost := (h.entry entry (hfrontier ▸ List.mem_cons_self)).1
    have hrest : ∀ e ∈ rest, entry.cost ≤ e.cost :=
      (List.pairwise_cons.mp (hfrontier ▸ h.ordered)).1
    obtain ⟨hsound, hsettled⟩ := h.drop hfrontier hcost hlt
    exact ⟨entry, rest, hfrontier, hfloor, hsound.raise hfloor hrest,
      .inl ⟨by simp [goingFrom?, hfrontier, hcost, Nat.not_le.mpr hlt], rfl, hsettled⟩⟩
  | @expanded entry rest hfrontier hcost hgoal =>
    have hfloor : floor ≤ entry.cost := (h.entry entry (hfrontier ▸ List.mem_cons_self)).1
    obtain ⟨hsound, hsettled, -⟩ := h.goOn hfrontier hcost hgoal
    exact ⟨entry, rest, hfrontier, hfloor, hsound,
      .inr ⟨by simp [goingFrom?, hfrontier, hcost, hgoal], rfl, hsettled⟩⟩

/-- A round on keeps the invariant. -/
theorem sound_onward (h : Sound ctx s goal floor noWaiver state)
    (hround : advance ctx s goal state = .onward after) :
    ∃ floor', Sound ctx s goal floor' noWaiver after := by
  obtain ⟨entry, _, -, -, hsound, -⟩ := onward_cases h hround
  exact ⟨entry.cost, hsound⟩

/-- **It settles the system that it goes on from**, and no other. -/
theorem settled_onward (h : Sound ctx s goal floor noWaiver state)
    (hround : advance ctx s goal state = .onward after) :
    after.Settled u c ↔ state.Settled u c ∨ goingFrom? goal state = some ⟨u, c⟩ := by
  obtain ⟨entry, _, -, -, -, ⟨hnone, -, hsettled⟩ | ⟨hfrom, -, hsettled⟩⟩ := onward_cases h hround
  · simp [hsettled, hnone]
  · rw [hsettled, hfrom, Option.some.injEq]

/-! ## All rounds -/

/-- What is gone on from in a state comes before what is gone on from behind it. -/
theorem filterMap_goingFrom?_cons (goal : SystemId) (state : Search) (behind : List Search) :
    (state :: behind).filterMap (goingFrom? goal) =
      (goingFrom? goal state).toList ++ behind.filterMap (goingFrom? goal) := by
  rw [List.filterMap_cons]
  cases goingFrom? goal state <;> rfl

/-- **A search that arrives keeps what every round on keeps**: it comes, after all its
expansions, to a state whose first entry is the goal's. -/
theorem exists_arrival {P : List FrontierEntry → Search → Prop}
    (hstep : ∀ done state after floor, Sound ctx s goal floor noWaiver state →
      advance ctx s goal state = .onward after → P done state →
      P (done ++ (goingFrom? goal state).toList) after)
    (h : Sound ctx s goal floor noWaiver state) (hP : P done state)
    (hrun : run ctx s goal rounds state = some (cost, last)) :
    ∃ before floor' rest, Sound ctx s goal floor' noWaiver before ∧
      P (done ++ (course ctx s goal rounds state).filterMap (goingFrom? goal)) before ∧
      before.frontier = ⟨goal, cost⟩ :: rest ∧ before.costOf? goal = some cost ∧
      last = { before with frontier := rest } := by
  induction rounds generalizing state floor done with
  | zero => cases hrun
  | succ rounds ih =>
    have hround := roundStep_advance h
    cases hadvance : advance ctx s goal state with
    | exhausted =>
      rw [run, hadvance] at hrun
      cases hrun
    | arrived cost' state' =>
      rw [run, hadvance] at hrun
      obtain ⟨rfl, rfl⟩ : cost' = cost ∧ state' = last := by simpa using hrun
      rw [hadvance] at hround
      cases hround with
      | @arrived _ rest hfrontier hcost =>
        refine ⟨state, floor, rest, h, ?_, hfrontier, hcost, rfl⟩
        -- nothing is gone on from in the last round
        have hnone : goingFrom? goal state = none := by simp [goingFrom?, hfrontier]
        rw [course, hadvance]
        simpa [hnone] using hP
    | onward after =>
      rw [run, hadvance] at hrun
      obtain ⟨floor', hsound⟩ := sound_onward h hadvance
      rw [course, hadvance, filterMap_goingFrom?_cons, ← List.append_assoc]
      exact ih hsound (hstep done state after floor h hadvance hP) hrun

end Search

namespace SearchContext

variable {ctx : SearchContext} {s goal u : SystemId} {found : RouteFound}

/-- **A search that finds a route keeps what every round on keeps.** -/
theorem exists_arrival {P : List FrontierEntry → Search → Prop}
    (hstep : ∀ done state after floor, Search.Sound ctx s goal floor Search.noWaiver state →
      Search.advance ctx s goal state = .onward after → P done state →
      P (done ++ (Search.goingFrom? goal state).toList) after)
    (hstart : P [] (Search.start s)) (hne : s ≠ goal) (h : ctx.findRoute s goal = some found) :
    ∃ before floor rest, Search.Sound ctx s goal floor Search.noWaiver before ∧
      P (ctx.expansions s goal) before ∧ before.frontier = ⟨goal, found.cost⟩ :: rest ∧
      found.excluded = before.excluded.size := by
  rw [findRoute, if_neg hne] at h
  obtain ⟨⟨cost, last⟩, hrun, rfl⟩ := Option.map_eq_some_iff.mp h
  obtain ⟨before, floor, rest, hsound, hP, hfrontier, -, rfl⟩ :=
    Search.exists_arrival hstep (Search.sound_start ctx s goal) hstart hrun
  exact ⟨before, floor, rest, hsound, hP, hfrontier, rfl⟩

/-- When the goal is taken off the frontier, the systems settled are those gone on from. -/
theorem exists_arrival_settled (hne : s ≠ goal) (h : ctx.findRoute s goal = some found) :
    ∃ before floor rest, Search.Sound ctx s goal floor Search.noWaiver before ∧
      (∀ u c, before.Settled u c ↔ ⟨u, c⟩ ∈ ctx.expansions s goal) ∧
      before.frontier = ⟨goal, found.cost⟩ :: rest := by
  obtain ⟨before, floor, rest, hsound, hsettled, hfrontier, -⟩ :=
    exists_arrival (P := fun done state => ∀ u c, state.Settled u c ↔ ⟨u, c⟩ ∈ done)
      (fun done state after floor hsound hround hdone u c => by
        rw [Search.settled_onward hsound hround, hdone, List.mem_append, Option.mem_toList])
      (fun u c => iff_of_false (Search.not_settled_start s u c) List.not_mem_nil) hne h
  exact ⟨before, floor, rest, hsound, hsettled, hfrontier⟩

/-- **A search goes on from every system that it can reach for less than the goal.** -/
theorem exists_mem_expansions (hne : s ≠ goal) (h : ctx.findRoute s goal = some found)
    {path : List SystemId} (hhead : path.head? = some s) (hlast : path.getLast? = some u)
    (hmoves : path.IsChain (ctx.Move s goal)) (hlt : ctx.walkCost goal path < found.cost) :
    ∃ c, ⟨u, c⟩ ∈ ctx.expansions s goal := by
  obtain ⟨before, floor, rest, hsound, hsettled, hfrontier⟩ := exists_arrival_settled hne h
  have hstart : before.costOf? s = some 0 := by rw [Search.costOf?, hsound.start]; rfl
  rcases hsound.settled_or_exists_entry_le hhead hlast hmoves hstart with ⟨c, hc⟩ | ⟨e, he, hle⟩
  · exact ⟨c, (hsettled u c).mp hc⟩
  · have hfirst : found.cost ≤ e.cost := hsound.ordered.head_le hfrontier he
    omega

/-- **And from none that it reaches for more**, nor from the goal. -/
theorem trail_of_mem_expansions (hne : s ≠ goal) (h : ctx.findRoute s goal = some found)
    {e : FrontierEntry} (he : e ∈ ctx.expansions s goal) :
    e.node ≠ goal ∧ ∃ path, ctx.Trail s goal e.node path ∧ ctx.walkCost goal path = e.cost ∧
      e.cost ≤ found.cost := by
  obtain ⟨before, floor, rest, hsound, hsettled, hfrontier⟩ := exists_arrival_settled hne h
  have hnode : before.Settled e.node e.cost := (hsettled e.node e.cost).mpr he
  obtain ⟨path, -, htrail, hcost⟩ := hsound.trace_eq hnode.1 le_rfl []
  have hfloor : floor ≤ found.cost := (hsound.entry _ (hfrontier ▸ List.mem_cons_self)).1
  exact ⟨fun hgoal => hsound.goal_open e.cost (hgoal ▸ hnode), path, htrail, hcost,
    le_trans (hsound.settled_le _ _ hnode) hfloor⟩

end SearchContext

end StarFreight
