import StarFreight.Proofs.Search.Course
/-!
# Search — systems that security refuses

What the number of systems refused counts. A system is turned away when it is a neighbour of
one that the search goes on from and security refuses it in its phase
(`TurnsAway`); every visit that finds that puts the system down, and it stands there
once however often it is found (`mem_excluded_expand`). Which systems the search goes on from is a
matter of cost alone: all that are reached for less than the goal, and none
that costs more (`findRoute_excluded`).
-/

namespace StarFreight

namespace SearchContext

/-- Security turns away a search from `s` to `goal` that looks from `u` at `v`: hard rules have
no part in it. -/
structure TurnsAway (ctx : SearchContext) (s goal u v : SystemId) : Prop where
  ne_start : v ≠ s
  neighbour : v ∈ ctx.snapshot.neighbours u
  refused : ∃ target, ctx.snapshot.system? v = some target ∧
    ctx.refuses target (phaseTowards goal v) = true

/-- What is turned away is not moved to. -/
theorem TurnsAway.not_move {ctx : SearchContext} {s goal u u' v : SystemId}
    (h : ctx.TurnsAway s goal u v) : ¬ ctx.Move s goal u' v := by
  intro hmove
  obtain ⟨target, htarget, hrefuses⟩ := h.refused
  obtain ⟨other, hother, hadmits⟩ := hmove.admitted
  rw [htarget] at hother
  obtain rfl := Option.some.inj hother
  simp [admits, hrefuses] at hadmits

end SearchContext

namespace Search

variable {ctx : SearchContext} {s goal current next v : SystemId} {cost floor : Nat}
  {state after : Search} {done : List FrontierEntry}

/-! ## What is put down -/

@[simp] theorem excluded_reach (state : Search) (source next : SystemId) (cost : Nat) :
    (state.reach source next cost).excluded = state.excluded := by
  rw [reach, apply_ite Search.excluded, ite_self]

/-- A visit puts down the neighbour that is turned away. -/
theorem mem_excluded_visit (hnext : next ∈ ctx.snapshot.neighbours current) :
    v ∈ (visit ctx s goal current cost state next).excluded ↔
      v ∈ state.excluded ∨ (v = next ∧ ctx.TurnsAway s goal current next) := by
  unfold visit
  split
  · next hs => exact (or_iff_left fun ⟨_, haway⟩ => haway.ne_start hs).symm
  · next hs =>
    cases hknown : ctx.snapshot.system? next with
    | none =>
      refine (or_iff_left fun ⟨_, haway⟩ => ?_).symm
      obtain ⟨target, htarget, -⟩ := haway.refused
      rw [hknown] at htarget
      cases htarget
    | some target =>
      have hid : target.id = next := ctx.snapshot.graph.keyed next target hknown
      have haway : ctx.TurnsAway s goal current next ↔
          ctx.refuses target (phaseTowards goal next) = true := by
        refine ⟨fun haway => ?_, fun hrefuses => ⟨hs, hnext, target, hknown, hrefuses⟩⟩
        obtain ⟨other, hother, hrefuses⟩ := haway.refused
        rw [hknown] at hother
        exact Option.some.inj hother ▸ hrefuses
      simp only [haway]
      split
      · next hrefuses =>
        rw [Std.TreeSet.mem_insert, Std.LawfulEqCmp.compare_eq_iff_eq, hid, or_comm,
          eq_comm (a := next), and_iff_left hrefuses]
      · next hrefuses => split <;> simp [hrefuses]

/-- **Going on from a system puts down whatever is turned away from it.** -/
theorem mem_excluded_expand : v ∈ (expand ctx s goal current cost state).excluded ↔
    v ∈ state.excluded ∨ ctx.TurnsAway s goal current v := by
  suffices key : ∀ left ⊆ ctx.snapshot.neighbours current, ∀ state : Search,
      v ∈ (left.foldl (visit ctx s goal current cost) state).excluded ↔
        v ∈ state.excluded ∨ (v ∈ left ∧ ctx.TurnsAway s goal current v) by
    rw [expand, key _ (List.Subset.refl _),
      and_iff_right_of_imp fun haway : ctx.TurnsAway s goal current v => haway.neighbour]
  intro left
  induction left with
  | nil => simp
  | cons next left ih =>
    intro hleft state
    obtain ⟨hnext, hrest⟩ := List.cons_subset.mp hleft
    rw [List.foldl_cons, ih hrest, mem_excluded_visit hnext, or_assoc, List.mem_cons, or_and_right]
    refine or_congr_right (or_congr_left (and_congr_right fun hv => ?_))
    rw [hv]

/-- **A round on puts down what is turned away from the system that it goes on from.** -/
theorem mem_excluded_onward (h : Sound ctx s goal floor noWaiver state)
    (hround : advance ctx s goal state = .onward after) :
    v ∈ after.excluded ↔ v ∈ state.excluded ∨
      ∃ e ∈ (goingFrom? goal state).toList, ctx.TurnsAway s goal e.node v := by
  obtain ⟨entry, _, -, -, -, ⟨hnone, rfl, -⟩ | ⟨hfrom, rfl, -⟩⟩ := onward_cases h hround
  · simp [hnone]
  · rw [mem_excluded_expand, hfrom]
    simp

end Search

namespace SearchContext

variable {ctx : SearchContext} {s goal : SystemId} {found : RouteFound}

/-- What a search has put down are the systems turned away from those that it went on from. -/
theorem exists_arrival_excluded (hne : s ≠ goal) (h : ctx.findRoute s goal = some found) :
    ∃ before : Search, found.excluded = before.excluded.size ∧
      ∀ v, v ∈ before.excluded ↔ ∃ e ∈ ctx.expansions s goal, ctx.TurnsAway s goal e.node v := by
  obtain ⟨before, -, -, -, hexcluded, -, hsize⟩ :=
    exists_arrival (P := fun done state =>
        ∀ v, v ∈ state.excluded ↔ ∃ e ∈ done, ctx.TurnsAway s goal e.node v)
      (fun done state after floor hsound hround hdone v => by
        rw [Search.mem_excluded_onward hsound hround, hdone]
        simp only [List.mem_append, or_and_right, exists_or])
      (fun v => by simp [Search.start]) hne h
  exact ⟨before, hsize, hexcluded⟩

/-- **The number of systems refused is that of the systems turned away**, each counted once:
known neighbours, other than the start, of the systems that the search goes on from, which
security refuses in their phase. None of them is on the path, and none is there that only a
hard rule forbids. The search goes on from every system to which a chain of moves costs less
than the route; and only from systems other than the goal, to which one costs no more. -/
theorem findRoute_excluded (hne : s ≠ goal) (h : ctx.findRoute s goal = some found) :
    ∃ counted : List SystemId, counted.Nodup ∧ counted.length = found.excluded ∧
      (∀ v, v ∈ counted ↔ ∃ e ∈ ctx.expansions s goal, ctx.TurnsAway s goal e.node v) ∧
      (∀ v target, ctx.snapshot.system? v = some target →
        ctx.refuses target (phaseTowards goal v) = false → v ∉ counted) ∧
      (∀ v ∈ counted, v ∉ found.path) ∧
      (∀ u path, path.head? = some s → path.getLast? = some u →
        path.IsChain (ctx.Move s goal) → ctx.walkCost goal path < found.cost →
        ∃ c, ⟨u, c⟩ ∈ ctx.expansions s goal) ∧
      ∀ e ∈ ctx.expansions s goal, e.node ≠ goal ∧
        ∃ path, ctx.Trail s goal e.node path ∧ ctx.walkCost goal path ≤ found.cost := by
  obtain ⟨before, hsize, hexcluded⟩ := exists_arrival_excluded hne h
  have hcounted : ∀ v, v ∈ before.excluded.toList ↔
      ∃ e ∈ ctx.expansions s goal, ctx.TurnsAway s goal e.node v := fun v =>
    Std.TreeSet.mem_toList.trans (hexcluded v)
  refine ⟨before.excluded.toList, ?_, by rw [Std.TreeSet.length_toList, hsize], hcounted, ?_, ?_,
    ?_, ?_⟩
  · refine Std.TreeSet.distinct_toList.imp fun hne heq => hne ?_
    rw [heq, Std.LawfulEqCmp.compare_eq_iff_eq]
  · intro v target htarget hrefuses hv
    obtain ⟨e, -, haway⟩ := (hcounted v).mp hv
    obtain ⟨other, hother, hrefused⟩ := haway.refused
    rw [htarget] at hother
    obtain rfl := Option.some.inj hother
    rw [hrefuses] at hrefused
    cases hrefused
  · intro v hv hpath
    obtain ⟨e, -, haway⟩ := (hcounted v).mp hv
    obtain ⟨_, hmove⟩ := (walk_of_findRoute h).exists_move hpath haway.ne_start
    exact haway.not_move hmove
  · intro u path hhead hlast hmoves hlt
    exact exists_mem_expansions hne h hhead hlast hmoves hlt
  · intro e he
    obtain ⟨hgoal, path, htrail, hcost, hle⟩ := trail_of_mem_expansions hne h he
    exact ⟨hgoal, path, htrail, hcost ▸ hle⟩

/-- A way through high security beside a system of low security, to which every system on it has
a connection. -/
def borderland : SearchContext where
  snapshot :=
    .ofGraph
      (.ofArcs
        ([1, 2, 3, 4, 5].map fun id =>
          { id, name := "", security := 0, constellation := 10 * id, region := 1 })
        [(1, 2), (2, 1), (2, 3), (3, 4), (1, 5), (2, 5), (3, 5), (3, 9), (5, 4)])
      { minNodes := 1, critical := [] } 1
  rules := {}
  policy :=
    { zones := [{ category := .lowsec, systems := [5] }, { category := .highsec, regions := [1] }] }
  profile := .safest

/-- The system of low security is met three times and counts once. -/
theorem findRoute_excluded_borderland :
    borderland.findRoute 1 4 = some ⟨[1, 2, 3, 4], 3, 1⟩ ∧
      borderland.expansions 1 4 = [⟨1, 0⟩, ⟨2, 1⟩, ⟨3, 2⟩] ∧
      ∃ counted : List SystemId, counted.Nodup ∧ counted.length = 1 ∧ 5 ∈ counted ∧
        5 ∉ ([1, 2, 3, 4] : List SystemId) := by
  have h : borderland.findRoute 1 4 = some ⟨[1, 2, 3, 4], 3, 1⟩ := by decide +kernel
  have hexpansions : borderland.expansions 1 4 = [⟨1, 0⟩, ⟨2, 1⟩, ⟨3, 2⟩] := by decide +kernel
  obtain ⟨counted, hnodup, hlength, hmem, -, hpath, -, -⟩ := findRoute_excluded (by decide) h
  have haway : borderland.TurnsAway 1 4 1 5 :=
    ⟨by decide, by decide +kernel, _, rfl, by decide +kernel⟩
  have hfive : 5 ∈ counted := (hmem 5).mpr ⟨⟨1, 0⟩, by simp [hexpansions], haway⟩
  exact ⟨h, hexpansions, counted, hnodup, hlength, hfive, hpath 5 hfive⟩

end SearchContext

end StarFreight
