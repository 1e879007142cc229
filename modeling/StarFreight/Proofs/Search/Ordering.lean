import StarFreight.Proofs.Avoidance.Buckets
import StarFreight.Proofs.Chart.Loading
import StarFreight.Proofs.Search.Rounds
/-!
# Search — the order of what is given

Of two contexts that answer alike whatever a search asks of one step (`Alike`), the searches go
through the same rounds and find the same route (`findRoute_congr`); the numbers of
rounds that they are given need not agree, for each search comes to its end by
itself. A graph answers alike however its systems and arcs were listed, because
neighbours are kept ascending; a list of rules answers alike in any order, because
nothing asks which of its rules forbids a step, and penalties are added up.
-/

namespace StarFreight

namespace SearchContext

/-- Two contexts give the same answer to everything a search asks of one step. -/
structure Alike (ctx other : SearchContext) : Prop where
  system? : ∀ id, ctx.snapshot.system? id = other.snapshot.system? id
  neighbours : ∀ id, ctx.snapshot.neighbours id = other.snapshot.neighbours id
  refuses : ∀ target phase, ctx.refuses target phase = other.refuses target phase
  forbids : ∀ u target phase, ctx.forbids u target phase = other.forbids u target phase
  stepCost : ∀ u target phase, ctx.stepCost u target phase = other.stepCost u target phase

end SearchContext

namespace Search

variable {ctx other : SearchContext} {s goal current : SystemId} {cost : Nat} {state : Search}
  {result : Option (Nat × Search)} (h : ctx.Alike other)

include h

theorem visit_congr (next : SystemId) :
    visit ctx s goal current cost state next = visit other s goal current cost state next := by
  simp only [visit, h.system?, h.refuses, h.forbids, h.stepCost]

theorem expand_congr :
    expand ctx s goal current cost state = expand other s goal current cost state := by
  have hvisit : visit ctx s goal current cost = visit other s goal current cost :=
    funext fun _ => funext fun next => visit_congr h next
  simp only [expand, h.neighbours, hvisit]

/-- A round leads to the same. -/
theorem advance_congr : advance ctx s goal state = advance other s goal state := by
  simp only [advance, expand_congr h]

/-- **And the search ends the same way.** -/
theorem ends_congr (hends : Ends ctx s goal state result) : Ends other s goal state result := by
  induction hends with
  | arrived hround => exact .arrived (advance_congr h ▸ hround)
  | exhausted hround => exact .exhausted (advance_congr h ▸ hround)
  | onward hround _ ih => exact .onward (advance_congr h ▸ hround) ih

end Search

namespace SearchContext

/-- **Contexts that are alike find the same route.** -/
theorem findRoute_congr {ctx other : SearchContext} (h : ctx.Alike other) (s goal : SystemId) :
    ctx.findRoute s goal = other.findRoute s goal := by
  have hcontains : ctx.snapshot.contains s = other.snapshot.contains s := by
    rw [Snapshot.contains_eq_isSome, Snapshot.contains_eq_isSome, h.system?]
  have hrun : Search.run ctx s goal ctx.rounds (Search.start s) =
      Search.run other s goal other.rounds (Search.start s) :=
    (Search.ends_congr h (Search.ends_run_start ctx s goal)).unique
      (Search.ends_run_start other s goal)
  simp only [findRoute, hcontains, hrun]

end SearchContext

/-! ## Rules in any order -/

namespace RuleSet

variable {rules rules' : List AvoidRule} (h : rules.Perm rules') {s : StarSystem} {a b : SystemId}
  {phase : Phase}

include h

theorem blocks_perm : (ofList rules).blocks s phase = (ofList rules').blocks s phase :=
  Bool.eq_iff_iff.mpr ⟨blocks_of_subset h.subset, blocks_of_subset h.symm.subset⟩

theorem blocksLink_perm :
    (ofList rules).blocksLink a b phase = (ofList rules').blocksLink a b phase :=
  Bool.eq_iff_iff.mpr ⟨blocksLink_of_subset h.subset, blocksLink_of_subset h.symm.subset⟩

theorem penalty_perm (source : SystemId) :
    (ofList rules).penalty source s phase = (ofList rules').penalty source s phase :=
  le_antisymm (penalty_le_of_subperm h.subperm source s phase)
    (penalty_le_of_subperm h.symm.subperm source s phase)

end RuleSet

/-! ## Descriptions in any order -/

namespace SearchContext

/-- Two descriptions with the same systems, arcs and rules are alike. -/
theorem alike_of_reordered {systems systems' : List StarSystem}
    {arcs arcs' : List (SystemId × SystemId)} {rules rules' : List AvoidRule}
    (hids : ∀ a ∈ systems, ∀ b ∈ systems, a.id = b.id → a = b)
    (hsystems : ∀ s, s ∈ systems ↔ s ∈ systems') (harcs : ∀ arc, arc ∈ arcs ↔ arc ∈ arcs')
    (hrules : rules.Perm rules') (demands demands' : GraphDemands) (n n' : Nat) (policy : Policy)
    (profile : Profile) :
    Alike ⟨.ofGraph (.ofArcs systems arcs) demands n, .ofList rules, policy, profile⟩
      ⟨.ofGraph (.ofArcs systems' arcs') demands' n', .ofList rules', policy, profile⟩ where
  system? := indexSystems_congr hids hsystems
  neighbours _ := congrArg Array.toList (Graph.neighbours_ofArcs_congr harcs)
  refuses _ _ := rfl
  forbids u target phase := by
    simp only [forbids, RuleSet.blocks_perm hrules, RuleSet.blocksLink_perm hrules]
  stepCost u target phase := by
    simp only [stepCost, RuleSet.penalty_perm hrules]

/-- **A route does not depend on the order of what is given.** Where each number is that
of one system, lists with the same systems and the same arcs, in any order and with any
repetitions, and the same rules in any order, lead to the same path, the same cost and
the same number of systems refused; neither what is demanded of the graph nor the
number of the loading has a part in it. -/
theorem findRoute_reordered {systems systems' : List StarSystem}
    {arcs arcs' : List (SystemId × SystemId)} {rules rules' : List AvoidRule}
    (hids : ∀ a ∈ systems, ∀ b ∈ systems, a.id = b.id → a = b)
    (hsystems : ∀ s, s ∈ systems ↔ s ∈ systems') (harcs : ∀ arc, arc ∈ arcs ↔ arc ∈ arcs')
    (hrules : rules.Perm rules') (demands demands' : GraphDemands) (n n' : Nat) (policy : Policy)
    (profile : Profile) (s goal : SystemId) :
    findRoute ⟨.ofGraph (.ofArcs systems arcs) demands n, .ofList rules, policy, profile⟩ s goal =
      findRoute ⟨.ofGraph (.ofArcs systems' arcs') demands' n', .ofList rules', policy, profile⟩
        s goal :=
  findRoute_congr
    (alike_of_reordered hids hsystems harcs hrules demands demands' n n' policy profile) s goal

/-- Two ways cost the same; the one through the smaller number is found, whichever is
listed first. -/
theorem findRoute_reordered_tie :
    let systems : List StarSystem := [1, 2, 3, 4].map fun id =>
      { id, name := "", security := 0, constellation := 10 * id, region := 1 }
    let arcs := [(1, 3), (3, 4), (1, 2), (2, 4)]
    let rules : List AvoidRule :=
      [{ id := 1, scope := .system 2, severity := 1 },
        { id := 2, scope := .constellation 30, severity := 1 }]
    let demands : GraphDemands := { minNodes := 1, critical := [] }
    let policy : Policy := { zones := [{ category := .highsec, regions := [1] }] }
    findRoute ⟨.ofGraph (.ofArcs systems arcs) demands 1, .ofList rules, policy, .shortest⟩ 1 4 =
        some ⟨[1, 2, 4], 5, 0⟩ ∧
      findRoute ⟨.ofGraph (.ofArcs systems.reverse (arcs.reverse ++ arcs)) demands 2,
        .ofList rules.reverse, policy, .shortest⟩ 1 4 = some ⟨[1, 2, 4], 5, 0⟩ := by
  intro systems arcs rules demands policy
  have hids : ∀ a ∈ systems, ∀ b ∈ systems, a.id = b.id → a = b := by
    intro a ha b hb hid
    obtain ⟨i, -, rfl⟩ := List.mem_map.mp ha
    obtain ⟨j, -, rfl⟩ := List.mem_map.mp hb
    obtain rfl : i = j := hid
    rfl
  have hfound : findRoute ⟨.ofGraph (.ofArcs systems arcs) demands 1, .ofList rules, policy,
      .shortest⟩ 1 4 = some ⟨[1, 2, 4], 5, 0⟩ := by
    decide +kernel
  refine ⟨hfound, Eq.trans ?_ hfound⟩
  exact (findRoute_reordered hids (fun s => List.mem_reverse.symm)
    (fun arc => by rw [List.mem_append, List.mem_reverse, or_self])
    (List.reverse_perm rules).symm demands demands 1 2 policy .shortest 1 4).symm

end SearchContext

end StarFreight
