import StarFreight.Proofs.Search.Optimality
/-!
# Search — cheapest walks are simple

A walk that comes back to a system it has visited stays a walk when the way
round is left out (`Walk.splice`), and every move of the way round cost
something. So a walk that no other undercuts comes back to no system
(`Walk.nodup`), and neither does the route that a search finds
(`nodup_of_findRoute`).
-/

namespace StarFreight

/-- A list with a repetition splits around two places of one element. -/
theorem exists_repeat {α : Type} {l : List α} (h : ¬ l.Nodup) :
    ∃ front a loop rest, l = front ++ a :: (loop ++ a :: rest) := by
  induction l with
  | nil => exact absurd List.nodup_nil h
  | cons a l ih =>
    by_cases ha : a ∈ l
    · obtain ⟨loop, rest, rfl⟩ := List.append_of_mem ha
      exact ⟨[], a, loop, rest, rfl⟩
    · obtain ⟨front, b, loop, rest, rfl⟩ := ih fun hl => h (List.nodup_cons.mpr ⟨ha, hl⟩)
      exact ⟨a :: front, b, loop, rest, rfl⟩

namespace SearchContext

variable {ctx : SearchContext} {s goal u a : SystemId} {path front loop rest : List SystemId}
  {found : RouteFound}

/-- The cost of a list of systems splits at any of them. -/
theorem walkCost_append_cons (front : List SystemId) (u : SystemId) (rest : List SystemId) :
    ctx.walkCost goal (front ++ u :: rest) =
      ctx.walkCost goal (front ++ [u]) + ctx.walkCost goal (u :: rest) := by
  induction front with
  | nil => simp [walkCost]
  | cons a front ih =>
    cases front with
    | nil => simp [walkCost]
    | cons b front =>
      simp only [List.cons_append, walkCost] at ih ⊢
      omega

/-- A way round costs something. -/
theorem walkCost_loop_pos (h : (u :: (loop ++ a :: rest)).IsChain (ctx.Move s goal)) :
    0 < ctx.walkCost goal (u :: loop ++ [a]) := by
  cases loop with
  | nil =>
    have hmove : ctx.Move s goal u a := (List.isChain_cons_cons.mp h).1
    have := hmove.cost_pos
    simp only [List.cons_append, List.nil_append, walkCost]
    omega
  | cons b loop =>
    have hmove : ctx.Move s goal u b := (List.isChain_cons_cons.mp h).1
    have := hmove.cost_pos
    simp only [List.cons_append, walkCost]
    omega

/-- **A walk stays one when a way round is left out.** -/
theorem Walk.splice (h : ctx.Walk s goal (front ++ a :: (loop ++ a :: rest))) :
    ctx.Walk s goal (front ++ a :: rest) where
  head := by
    have hhead := h.head
    rw [List.head?_append] at hhead ⊢
    exact hhead
  last := by
    have hlast := h.last
    rw [← List.cons_append, ← List.append_assoc, List.getLast?_append_cons] at hlast
    rwa [List.getLast?_append_cons]
  moves := by
    obtain ⟨hfront, hloop⟩ := List.isChain_split.mp h.moves
    rw [← List.cons_append] at hloop
    exact List.isChain_split.mpr ⟨hfront, (List.isChain_split.mp hloop).2⟩
  goal_last := by
    have hgoal := h.goal_last
    simp only [List.dropLast_append_cons, List.mem_append, not_or] at hgoal ⊢
    refine ⟨hgoal.1, fun hmem => hgoal.2 ?_⟩
    rw [← List.cons_append, List.dropLast_append_cons]
    exact List.mem_append_right _ hmem

/-- **A walk that no other undercuts visits no system twice.** -/
theorem Walk.nodup (h : ctx.Walk s goal path)
    (hmin : ∀ other, ctx.Walk s goal other → ctx.walkCost goal path ≤ ctx.walkCost goal other) :
    path.Nodup := by
  by_contra hrepeat
  obtain ⟨front, a, loop, rest, rfl⟩ := exists_repeat hrepeat
  -- without the way round from `a` to `a` the walk would cost less
  have hle := hmin _ (Walk.splice h)
  have hpos := walkCost_loop_pos (List.isChain_split.mp h.moves).2
  rw [walkCost_append_cons front a (loop ++ a :: rest), walkCost_append_cons front a rest,
    ← List.cons_append, walkCost_append_cons (a :: loop) a rest] at hle
  omega

/-- **The route found visits no system twice.** -/
theorem nodup_of_findRoute (h : ctx.findRoute s goal = some found) : found.path.Nodup :=
  Walk.nodup (walk_of_findRoute h) fun _ hother => walkCost_le_of_findRoute h hother

/-- The route found never stays where it is. -/
theorem isChain_ne_of_findRoute (h : ctx.findRoute s goal = some found) :
    found.path.IsChain (· ≠ ·) :=
  (nodup_of_findRoute h).isChain

end SearchContext

end StarFreight
