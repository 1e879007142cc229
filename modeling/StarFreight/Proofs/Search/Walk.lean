import Mathlib.Data.List.Chain
import StarFreight.Search.Step
/-!
# Search — admissible walks

What a search looks for, said without a search. A move leads to a neighbour
that the graph knows, that is not the start, and that the context admits in
its phase; a walk is a list of systems joined by moves, which has the goal as
its last system only. Its cost is the sum of the costs of its moves. Walks on
the way to the goal (`Trail`) are longer by one move at a time
(`Trail.concat`), and a walk stays one when no hard rule is left
(`Walk.withoutHard`).
-/

namespace StarFreight

namespace SearchContext

variable {ctx : SearchContext} {s goal u v : SystemId} {path : List SystemId}

/-- What is admitted is allowed by the policy, in high security under the safest
profile, and kept free by the hard rules. -/
theorem admits_iff {next : StarSystem} {phase : Phase} : ctx.admits u next phase = true ↔
    ctx.policy.allows next phase = true ∧
      (ctx.profile = .safest → ctx.policy.classify next = .highsec) ∧
      ctx.rules.blocks next phase = false ∧ ctx.rules.blocksLink u next.id phase = false := by
  simp only [admits, refuses, forbids, Bool.and_eq_true, Bool.not_eq_true', Bool.or_eq_false_iff,
    Bool.not_eq_false', Bool.and_eq_false_iff, beq_eq_false_iff_ne, bne_eq_false_iff_eq, ne_eq,
    and_assoc, ← imp_iff_not_or]

/-- A move that a walk from `s` to `goal` may make. -/
structure Move (ctx : SearchContext) (s goal u v : SystemId) : Prop where
  ne_start : v ≠ s
  neighbour : v ∈ ctx.snapshot.neighbours u
  /-- The system entered is known, and admitted as a delivery exactly when it is
  the goal. -/
  admitted : ∃ target, ctx.snapshot.system? v = some target ∧
    ctx.admits u target (phaseTowards goal v) = true

/-- The cost of a move; there is none into an unknown system. -/
def moveCost (ctx : SearchContext) (goal u v : SystemId) : Nat :=
  match ctx.snapshot.system? v with
  | some target => ctx.stepCost u target (phaseTowards goal v)
  | none => 0

/-- The cost of a list of systems: that of its moves. -/
def walkCost (ctx : SearchContext) (goal : SystemId) : List SystemId → Nat
  | u :: v :: rest => ctx.moveCost goal u v + ctx.walkCost goal (v :: rest)
  | _ => 0

/-- A walk from `s` to `v` on the way to `goal`. -/
structure Trail (ctx : SearchContext) (s goal v : SystemId) (path : List SystemId) : Prop where
  head : path.head? = some s
  last : path.getLast? = some v
  moves : path.IsChain (ctx.Move s goal)
  /-- It does not go on from the goal. -/
  goal_last : goal ∉ path.dropLast

/-- A walk that a search from `s` to `goal` may find. -/
abbrev Walk (ctx : SearchContext) (s goal : SystemId) (path : List SystemId) : Prop :=
  ctx.Trail s goal goal path

/-! ## Costs -/

/-- Every move costs something. -/
theorem Move.cost_pos (h : ctx.Move s goal u v) : 0 < ctx.moveCost goal u v := by
  obtain ⟨target, htarget, -⟩ := h.admitted
  simp only [moveCost, htarget]
  exact stepCost_pos ctx u target _

/-- One more move adds its cost. -/
theorem walkCost_concat (hlast : path.getLast? = some u) :
    ctx.walkCost goal (path ++ [v]) = ctx.walkCost goal path + ctx.moveCost goal u v := by
  induction path with
  | nil => simp at hlast
  | cons a path ih =>
    cases path with
    | nil =>
      obtain rfl : a = u := by simpa using hlast
      simp [walkCost]
    | cons b path =>
      rw [List.getLast?_cons_cons] at hlast
      have htail := ih hlast
      simp only [List.cons_append, walkCost] at htail ⊢
      omega

/-! ## Trails -/

theorem Trail.start : ctx.Trail s goal s [s] where
  head := rfl
  last := rfl
  moves := List.isChain_singleton s
  goal_last := by simp

/-- A trail that has not come to the goal goes on by any move. -/
theorem Trail.concat (h : ctx.Trail s goal u path) (hu : u ≠ goal) (hmove : ctx.Move s goal u v) :
    ctx.Trail s goal v (path ++ [v]) where
  head := by rw [List.head?_append, h.head]; rfl
  last := by simp
  moves := by
    refine List.isChain_append.mpr ⟨h.moves, List.isChain_singleton v, fun a ha b hb => ?_⟩
    rw [h.last] at ha
    obtain rfl : u = a := by simpa using ha
    obtain rfl : v = b := by simpa using hb
    exact hmove
  goal_last := by
    rw [List.dropLast_concat]
    intro hmem
    -- the goal would be the system that the trail goes on from
    obtain ⟨front, hfront⟩ := List.getLast?_eq_some_iff.mp h.last
    have hdrop := h.goal_last
    rw [hfront, List.dropLast_concat] at hdrop
    rw [hfront] at hmem
    rcases List.mem_append.mp hmem with hmem | hmem
    · exact hdrop hmem
    · exact hu (List.mem_singleton.mp hmem).symm

/-- Systems next to each other on a trail are joined by a move. -/
theorem Trail.move (h : ctx.Trail s goal v path) {a b : SystemId} {i : Nat}
    (ha : path[i]? = some a) (hb : path[i + 1]? = some b) : ctx.Move s goal a b := by
  obtain ⟨hi, rfl⟩ := List.getElem?_eq_some_iff.mp ha
  obtain ⟨hi', rfl⟩ := List.getElem?_eq_some_iff.mp hb
  exact List.isChain_iff_getElem.mp h.moves i hi'

/-- Every system on a trail but the start was entered by a move. -/
theorem Trail.exists_move (h : ctx.Trail s goal v path) {b : SystemId} (hb : b ∈ path)
    (hne : b ≠ s) : ∃ a, ctx.Move s goal a b := by
  obtain ⟨i, hi⟩ := List.getElem?_of_mem hb
  cases i with
  | zero =>
    rw [← List.head?_eq_getElem?, h.head] at hi
    exact absurd (Option.some.inj hi).symm hne
  | succ i =>
    obtain ⟨hlt, -⟩ := List.getElem?_eq_some_iff.mp hi
    exact ⟨path[i], h.move (List.getElem?_eq_getElem (by omega)) hi⟩

/-! ## Without hard rules -/

@[simp] theorem refuses_withoutHard (target : StarSystem) (phase : Phase) :
    ctx.withoutHard.refuses target phase = ctx.refuses target phase :=
  rfl

@[simp] theorem forbids_withoutHard (target : StarSystem) (phase : Phase) :
    ctx.withoutHard.forbids u target phase = false := by
  simp [forbids, withoutHard, RuleSet.withoutHard, RuleSet.blocks, RuleSet.hardBlock?,
    RuleSet.blocksLink, RuleIndex.forSystem, RuleIndex.forLink]

/-- A move stays one when the hard rules go. -/
theorem Move.withoutHard (h : ctx.Move s goal u v) : ctx.withoutHard.Move s goal u v := by
  refine ⟨h.ne_start, h.neighbour, ?_⟩
  obtain ⟨target, htarget, hadmits⟩ := h.admitted
  refine ⟨target, htarget, ?_⟩
  simp only [admits, Bool.and_eq_true] at hadmits
  simp [admits, hadmits.1]

/-- **A walk stays one when the hard rules go.** -/
theorem Walk.withoutHard (h : ctx.Walk s goal path) : ctx.withoutHard.Walk s goal path :=
  ⟨h.head, h.last, h.moves.imp fun _ _ => Move.withoutHard, h.goal_last⟩

end SearchContext

end StarFreight
