import Mathlib.Algebra.BigOperators.Ring.List
import Mathlib.Data.List.Nodup
import StarFreight.Proofs.Avoidance.Buckets
import StarFreight.Proofs.Planning.Passage
import StarFreight.Proofs.Search.Simple
/-!
# Search — what a route is charged for

The cost of a route is one for every step, the surcharge of every system entered,
and the penalty of every soft rule crossed (`walkCost_eq`). A search charges a rule
in the phase that the goal gives a step, the list of rules on a path goes by the
position of the step; on a walk these are the same charges (`softHitsAlong_eq`). A
rule may be charged at several steps and is listed once, where it is first met.
-/

namespace StarFreight

section Lists

variable {α : Type} {number : α → Int} {a b : α} {as : List α}

/-- Where different things carry different numbers, nothing is lost. -/
theorem mem_firstOfEach_iff (h : ∀ a ∈ as, ∀ b ∈ as, number a = number b → a = b) :
    a ∈ firstOfEach number as ↔ a ∈ as := by
  refine ⟨mem_of_mem_firstOfEach, fun ha => ?_⟩
  obtain ⟨b, hb, hba⟩ : ∃ b ∈ firstOfEach number as, number b = number a :=
    exists_mem_firstOfEach ha
  rwa [h a ha b (mem_of_mem_firstOfEach hb) hba.symm]

variable [DecidableEq α]

/-- **What is kept stands in the order in which it first occurred.** -/
theorem pairwise_idxOf_firstOfEach (as : List α) :
    (firstOfEach number as).Pairwise fun a b => as.idxOf a < as.idxOf b := by
  induction as with
  | nil => exact List.Pairwise.nil
  | cons c as ih =>
    -- nothing that is kept behind the head is the head, so its place moves by one
    have hshift : ∀ b ∈ (firstOfEach number as).filter fun b => number b != number c,
        (c :: as).idxOf b = as.idxOf b + 1 := by
      intro b hb
      have hne : number b ≠ number c := bne_iff_ne.mp (List.mem_filter.mp hb).2
      exact List.idxOf_cons_ne as fun hcb => hne (congrArg number hcb.symm)
    refine List.pairwise_cons.mpr ⟨fun b hb => ?_, (ih.filter _).imp_of_mem fun ha hb hlt => ?_⟩
    · rw [List.idxOf_cons_self, hshift b hb]
      exact Nat.succ_pos _
    · rw [hshift _ ha, hshift _ hb]
      exact Nat.succ_lt_succ hlt

/-- What occurs first in a row of lists occurs in the earlier of them. -/
theorem findIdx_le_of_idxOf_flatten_le {ls : List (List α)}
    (h : ls.flatten.idxOf a ≤ ls.flatten.idxOf b) :
    ls.findIdx (fun l => decide (a ∈ l)) ≤ ls.findIdx (fun l => decide (b ∈ l)) := by
  induction ls with
  | nil => exact Nat.le_refl _
  | cons l ls ih =>
    by_cases ha : a ∈ l
    · simp [List.findIdx_cons, ha]
    rw [List.flatten_cons, List.idxOf_append_of_notMem ha] at h
    by_cases hb : b ∈ l
    · -- `b` is met before the first list ends, `a` only behind it
      rw [List.idxOf_append_of_mem hb] at h
      have hlt := List.idxOf_lt_length_of_mem hb
      omega
    · rw [List.idxOf_append_of_notMem hb] at h
      have := ih (by omega)
      simpa [List.findIdx_cons, ha, hb] using this

end Lists

/-- Systems as they are met along a path: they have its numbers, and those entered are
the ones that the snapshot has. The system a path starts from is not asked for. -/
structure Snapshot.Meets (snapshot : Snapshot) (path : List SystemId) (systems : List StarSystem) :
    Prop where
  ids : systems.map (·.id) = path
  entered : ∀ target ∈ systems.tail, snapshot.system? target.id = some target

namespace SearchContext

variable {ctx : SearchContext} {s goal u v : SystemId} {path : List SystemId}
  {systems : List StarSystem} {rules : List AvoidRule} {found : RouteFound}

/-- What entering a system costs because of its class. -/
def entrySurcharge (ctx : SearchContext) (v : SystemId) : Nat :=
  match ctx.snapshot.system? v with
  | some target => ctx.profile.surcharge (ctx.policy.classify target)
  | none => 0

/-- The soft rules that a move is charged for. -/
def moveHits (ctx : SearchContext) (goal u v : SystemId) : List AvoidRule :=
  match ctx.snapshot.system? v with
  | some target => ctx.rules.softHits u target (phaseTowards goal v)
  | none => []

/-- The soft rules that each move along a list of systems is charged for. -/
def hitsAlong (ctx : SearchContext) (goal : SystemId) : List SystemId → List (List AvoidRule)
  | u :: v :: rest => ctx.moveHits goal u v :: ctx.hitsAlong goal (v :: rest)
  | _ => []

/-- What stands among the charges is what some move is charged for. -/
theorem exists_moveHits_of_mem {hits : List AvoidRule} (h : hits ∈ ctx.hitsAlong goal path) :
    ∃ u v, hits = ctx.moveHits goal u v := by
  induction path with
  | nil => cases h
  | cons u path ih =>
    cases path with
    | nil => cases h
    | cons v rest =>
      rcases List.mem_cons.mp h with rfl | h
      · exact ⟨u, v, rfl⟩
      · exact ih h

/-- A move is charged for rules of the list only. -/
theorem mem_of_mem_moveHits {rule : AvoidRule} (hrules : ctx.rules = .ofList rules)
    (h : rule ∈ ctx.moveHits goal u v) : rule ∈ rules := by
  unfold moveHits at h
  split at h
  · rw [hrules] at h
    exact (RuleSet.mem_softHits_ofList.mp h).1
  · cases h

/-! ## The cost, item by item -/

/-- The cost of a move, item by item. -/
theorem Move.cost_eq (h : ctx.Move s goal u v) :
    ctx.moveCost goal u v = 1 + ctx.entrySurcharge v +
      severityCost * ((ctx.moveHits goal u v).map (·.severity)).sum := by
  obtain ⟨target, htarget, -⟩ := h.admitted
  simp only [moveCost, entrySurcharge, moveHits, htarget, stepCost, RuleSet.penalty_eq]

/-- **The cost of a list of moves, item by item**: the moves, the surcharges of the
systems entered, and the severities of the soft rules crossed, however often. -/
theorem walkCost_eq (h : path.IsChain (ctx.Move s goal)) :
    ctx.walkCost goal path = (path.length - 1) + (path.tail.map ctx.entrySurcharge).sum +
      severityCost * ((ctx.hitsAlong goal path).flatten.map (·.severity)).sum := by
  induction path with
  | nil => rfl
  | cons u path ih =>
    cases path with
    | nil => rfl
    | cons v rest =>
      obtain ⟨hmove, hrest⟩ := List.isChain_cons_cons.mp h
      have hcost := ih hrest
      simp only [List.length_cons, Nat.add_sub_cancel, List.tail_cons] at hcost
      simp only [walkCost, hitsAlong, hcost, hmove.cost_eq, List.length_cons, Nat.add_sub_cancel,
        List.tail_cons, List.map_cons, List.sum_cons, List.flatten_cons, List.map_append,
        List.sum_append, Nat.mul_add]
      omega

/-! ## The rules, phase by phase -/

/-- **The rules listed along a walk are those that its moves are charged for**: the goal
comes last and only there, so each step has the phase that the search gave it. -/
theorem softHitsAlong_eq (hmeets : ctx.snapshot.Meets path systems)
    (hlast : path.getLast? = some goal) (hgoal : goal ∉ path.dropLast) :
    softHitsAlong ctx.rules systems = (ctx.hitsAlong goal path).flatten := by
  induction systems generalizing path with
  | nil =>
    obtain rfl : [] = path := hmeets.ids
    rfl
  | cons a systems ih =>
    obtain rfl := hmeets.ids
    cases systems with
    | nil => rfl
    | cons b rest =>
      have hentered : ctx.snapshot.system? b.id = some b := hmeets.entered b List.mem_cons_self
      have hmeets' : ctx.snapshot.Meets ((b :: rest).map (·.id)) (b :: rest) :=
        ⟨rfl, fun target htarget => hmeets.entered target (List.mem_cons_of_mem b htarget)⟩
      simp only [List.map_cons, List.getLast?_cons_cons, List.dropLast_cons_cons, List.mem_cons,
        not_or] at hlast hgoal
      have hphase : (if rest.isEmpty then Phase.delivery else Phase.transit) =
          phaseTowards goal b.id := by
        cases rest with
        | nil =>
          obtain rfl : b.id = goal := by simpa using hlast
          simp [phaseTowards]
        | cons c rest =>
          have hne : b.id ≠ goal := by
            rintro rfl
            exact hgoal.2 (by simp)
          simp [phaseTowards, hne]
      simp only [softHitsAlong, List.map_cons, hitsAlong, moveHits, hentered, List.flatten_cons,
        hphase]
      rw [ih hmeets' (by simpa using hlast) (by simpa using hgoal.2), List.map_cons]

/-- The systems of a route that starts from a known one are met along it. -/
theorem meets_of_findRoute (hs : ctx.snapshot.contains s = true)
    (h : ctx.findRoute s goal = some found) :
    ctx.snapshot.Meets found.path (found.path.filterMap ctx.snapshot.system?) := by
  have hknown := forall₂_filterMap_system? ctx.snapshot
    ((walk_of_findRoute h).isSome_system? (Snapshot.isSome_system? hs))
  refine ⟨ids_of_known hknown, fun target htarget => ?_⟩
  obtain ⟨id, -, hsystem⟩ := List.mem_filterMap.mp (List.mem_of_mem_tail htarget)
  rwa [ctx.snapshot.graph.keyed id target hsystem]

/-- **The soft rules listed for a route are those it was charged for**: each rule that
a step of the route crosses, once, in the order of the first steps that cross them; and
the cost of the route is the number of its steps, the surcharges of the systems entered
and three for every point of severity crossed. -/
theorem softRulesOnPath_charged (hids : (rules.map (·.id)).Nodup)
    (hrules : ctx.rules = .ofList rules) (h : ctx.findRoute s goal = some found)
    (hmeets : ctx.snapshot.Meets found.path systems) :
    (softRulesOnPath ctx.rules systems).Nodup ∧
      (∀ rule, rule ∈ softRulesOnPath ctx.rules systems ↔
        ∃ hits ∈ ctx.hitsAlong goal found.path, rule ∈ hits) ∧
      (softRulesOnPath ctx.rules systems).Pairwise (fun a b =>
        (ctx.hitsAlong goal found.path).findIdx (fun hits => decide (a ∈ hits)) ≤
          (ctx.hitsAlong goal found.path).findIdx (fun hits => decide (b ∈ hits))) ∧
      found.cost = (found.path.length - 1) + (found.path.tail.map ctx.entrySurcharge).sum +
        3 * ((ctx.hitsAlong goal found.path).flatten.map (·.severity)).sum := by
  have hwalk := walk_of_findRoute h
  have hhits := softHitsAlong_eq hmeets hwalk.last hwalk.goal_last
  have hlisted : softRulesOnPath ctx.rules systems =
      firstOfEach (·.id) (ctx.hitsAlong goal found.path).flatten := by
    rw [softRulesOnPath, hhits]
  -- every rule listed is a rule of the list, and there rules are told by their numbers
  have hnumbered : ∀ rule ∈ (ctx.hitsAlong goal found.path).flatten, rule ∈ rules := by
    intro rule hrule
    obtain ⟨hits, hmem, hrule⟩ := List.mem_flatten.mp hrule
    obtain ⟨u, v, rfl⟩ := exists_moveHits_of_mem hmem
    exact mem_of_mem_moveHits hrules hrule
  rw [hlisted]
  refine ⟨(pairwise_firstOfEach _).imp fun hne => ne_of_apply_ne _ hne, fun rule => ?_,
    (pairwise_idxOf_firstOfEach _).imp fun hlt => findIdx_le_of_idxOf_flatten_le hlt.le, ?_⟩
  · rw [mem_firstOfEach_iff fun a ha b hb => List.inj_on_of_nodup_map hids (hnumbered a ha)
      (hnumbered b hb), List.mem_flatten]
  · rw [cost_of_findRoute h, walkCost_eq hwalk.moves]
    rfl

/-- Soft rules on the first connection, on the region, and on two systems for those who
do not pass through. -/
def straitRules : List AvoidRule :=
  [ { id := 9, scope := .edge ⟨1, 2⟩, severity := 2 }
  , { id := 5, scope := .region 1 }
  , { id := 7, scope := .system 3, applies := { transit := false } }
  , { id := 4, scope := .system 2, applies := { transit := false } } ]

/-- Three systems in a row, the second of low security. -/
def strait : SearchContext where
  snapshot := .ofGraph
    (.ofArcs
      ([1, 2, 3].map fun id => { id, name := "", security := 0, constellation := 10, region := 1 })
      [(1, 2), (2, 1), (2, 3), (3, 2)])
    { minNodes := 1, critical := [] } 1
  rules := .ofList straitRules
  policy :=
    { zones := [{ category := .lowsec, systems := [2] }, { category := .highsec, regions := [1] }] }
  profile := .balanced

/-- The rule on the region is charged for twice and listed first; the cost is two for the
steps, two for low security and three times five for the rules. -/
theorem softRulesOnPath_charged_strait :
    (straitRules.map (·.id)).Nodup ∧ strait.findRoute 1 3 = some ⟨[1, 2, 3], 19, 0⟩ ∧
      (strait.hitsAlong 3 [1, 2, 3]).map (·.map (·.id)) = [[5, 9], [7, 5]] ∧
      ((softRulesOnPath strait.rules
        (([1, 2, 3] : List SystemId).filterMap strait.snapshot.system?)).map (·.id)) = [5, 9, 7] ∧
      19 = 2 + (([2, 3] : List SystemId).map strait.entrySurcharge).sum +
        3 * ((strait.hitsAlong 3 [1, 2, 3]).flatten.map (·.severity)).sum := by
  have hids : (straitRules.map (·.id)).Nodup := by decide
  have h : strait.findRoute 1 3 = some ⟨[1, 2, 3], 19, 0⟩ := by decide +kernel
  have hmeets := meets_of_findRoute (by decide +kernel) h
  obtain ⟨-, -, -, hcost⟩ := softRulesOnPath_charged hids rfl h hmeets
  exact ⟨hids, h, by decide +kernel, by decide +kernel, hcost⟩

end SearchContext

end StarFreight
