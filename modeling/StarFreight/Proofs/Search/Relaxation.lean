import StarFreight.Proofs.Avoidance.Buckets
import StarFreight.Proofs.Chart.Loading
import StarFreight.Proofs.Search.Optimality
/-!
# Search — fewer constraints

What becomes of a route when there is less in its way: when the graph has more
systems and connections, when rules are taken out of the list. Every walk stays
one and costs no more (`Relaxed.walk`, `Relaxed.walkCost_le`). The search may
well find another walk then, but it finds one, and one that costs no more
(`Relaxed.exists_findRoute`); where every step costs 1, it has no more jumps.
-/

namespace StarFreight

/-- One snapshot has all systems of another, as they are, and all its connections. -/
structure Snapshot.Within (before after : Snapshot) : Prop where
  systems : ∀ id s, before.system? id = some s → after.system? id = some s
  neighbours : ∀ id, ∀ v ∈ before.neighbours id, v ∈ after.neighbours id

theorem Snapshot.Within.contains {before after : Snapshot} (h : before.Within after) {id : SystemId}
    (hid : before.contains id = true) : after.contains id = true := by
  rw [contains_eq_isSome] at hid ⊢
  obtain ⟨s, hs⟩ := Option.isSome_iff_exists.mp hid
  exact Option.isSome_iff_exists.mpr ⟨s, h.systems id s hs⟩

/-- A graph of the same systems with more gates has all that it had. -/
theorem Snapshot.within_of_gates {systems : List StarSystem}
    {gates gates' : List (SystemId × SystemId)} (h : gates ⊆ gates')
    (demands demands' : GraphDemands) (n n' : Nat) :
    (ofGraph (.ofGates systems gates) demands n).Within
      (ofGraph (.ofGates systems gates') demands' n') where
  systems _ _ hs := hs
  neighbours id v hv := by
    simp only [neighbours, ofGraph, Array.mem_toList_iff, Graph.mem_neighbours_ofGates] at hv ⊢
    obtain ⟨hne, hid, hv, hgate⟩ := hv
    exact ⟨hne, hid, hv, hgate.imp (fun hgate => h hgate) fun hgate => h hgate⟩

namespace SearchContext

/-! ## Walks where less is in the way -/

/-- Where one context permits a step, another permits it too, at no greater cost. -/
structure Relaxed (before after : SearchContext) : Prop where
  snapshot : before.snapshot.Within after.snapshot
  admits : ∀ u target phase, before.admits u target phase = true →
    after.admits u target phase = true
  stepCost_le : ∀ u target phase, before.admits u target phase = true →
    after.stepCost u target phase ≤ before.stepCost u target phase

variable {ctx before after : SearchContext} {s goal u v : SystemId} {path : List SystemId}
  {found : RouteFound} {rules kept : List AvoidRule}

namespace Relaxed

variable (h : before.Relaxed after)

include h

theorem move (hmove : before.Move s goal u v) : after.Move s goal u v := by
  obtain ⟨target, htarget, hadmits⟩ := hmove.admitted
  exact ⟨hmove.ne_start, h.snapshot.neighbours u v hmove.neighbour, target,
    h.snapshot.systems v target htarget, h.admits u target _ hadmits⟩

theorem moveCost_le (hmove : before.Move s goal u v) :
    after.moveCost goal u v ≤ before.moveCost goal u v := by
  obtain ⟨target, htarget, hadmits⟩ := hmove.admitted
  simp only [moveCost, htarget, h.snapshot.systems v target htarget]
  exact h.stepCost_le u target _ hadmits

/-- **A walk stays one where less is in its way.** -/
theorem walk (hwalk : before.Walk s goal path) : after.Walk s goal path :=
  ⟨hwalk.head, hwalk.last, hwalk.moves.imp fun _ _ => h.move, hwalk.goal_last⟩

/-- **And it costs no more.** -/
theorem walkCost_le (hmoves : path.IsChain (before.Move s goal)) :
    after.walkCost goal path ≤ before.walkCost goal path := by
  induction path with
  | nil => exact le_rfl
  | cons a path ih =>
    cases path with
    | nil => exact le_rfl
    | cons b path =>
      obtain ⟨hmove, hrest⟩ := List.isChain_cons_cons.mp hmoves
      exact Nat.add_le_add (h.moveCost_le hmove) (ih hrest)

/-- **Where there was a route there is one, and it costs no more**: the walk that was
found is one of those among which the search now finds the cheapest. -/
theorem exists_findRoute (hfound : before.findRoute s goal = some found) :
    ∃ other, after.findRoute s goal = some other ∧ other.cost ≤ found.cost := by
  have hwalk := walk_of_findRoute hfound
  obtain ⟨other, hother⟩ := exists_findRoute_of_walk
    (fun heq => h.snapshot.contains (contains_of_findRoute hfound heq)) (h.walk hwalk)
  refine ⟨other, hother, ?_⟩
  calc
    other.cost = after.walkCost goal other.path := cost_of_findRoute hother
    _ ≤ after.walkCost goal found.path := walkCost_le_of_findRoute hother (h.walk hwalk)
    _ ≤ before.walkCost goal found.path := h.walkCost_le hwalk.moves
    _ = found.cost := (cost_of_findRoute hfound).symm

end Relaxed

/-- A graph with more in it, and a list with fewer rules, leave less in the way. -/
theorem relaxed_of_sublist {before after : Snapshot} (hwithin : before.Within after)
    (hkept : kept.Sublist rules) (policy : Policy) (profile : Profile) :
    Relaxed ⟨before, .ofList rules, policy, profile⟩ ⟨after, .ofList kept, policy, profile⟩ where
  snapshot := hwithin
  admits u target phase hadmits := by
    obtain ⟨hallows, hclass, hblocks, hlink⟩ := admits_iff.mp hadmits
    refine admits_iff.mpr ⟨hallows, hclass, ?_, ?_⟩
    · exact Bool.eq_false_iff.mpr fun hnow =>
        Bool.eq_false_iff.mp hblocks (RuleSet.blocks_of_subset hkept.subset hnow)
    · exact Bool.eq_false_iff.mpr fun hnow =>
        Bool.eq_false_iff.mp hlink (RuleSet.blocksLink_of_subset hkept.subset hnow)
  stepCost_le u target phase _ :=
    Nat.add_le_add_left (RuleSet.penalty_le_of_subperm hkept.subperm u target phase) _

/-! ## Jumps -/

/-- Without soft rules, a step of the shortest profile costs 1. -/
theorem stepCost_eq_one (hprofile : ctx.profile = .shortest) (hsoft : ctx.rules.soft = {})
    (target : StarSystem) (phase : Phase) : ctx.stepCost u target phase = 1 := by
  have hhits : ctx.rules.softHits u target phase = [] := by
    simp [RuleSet.softHits, hsoft, RuleIndex.forSystem, RuleIndex.forLink]
  simp [stepCost, hprofile, Profile.surcharge, RuleSet.penalty, hhits]

/-- A walk then costs as much as it has jumps. -/
theorem walkCost_add_one_eq_length (hprofile : ctx.profile = .shortest)
    (hsoft : ctx.rules.soft = {}) (hwalk : ctx.Walk s goal path) :
    ctx.walkCost goal path + 1 = path.length := by
  suffices hjumps : ∀ path, path.IsChain (ctx.Move s goal) → path ≠ [] →
      ctx.walkCost goal path + 1 = path.length from
    hjumps _ hwalk.moves fun hnil => by simpa [hnil] using hwalk.head
  intro path hmoves hne
  induction path with
  | nil => exact absurd rfl hne
  | cons a path ih =>
    cases path with
    | nil => rfl
    | cons b path =>
      obtain ⟨hmove, hrest⟩ := List.isChain_cons_cons.mp hmoves
      obtain ⟨target, htarget, -⟩ := hmove.admitted
      have hstep : ctx.moveCost goal a b = 1 := by
        simp only [moveCost, htarget]
        exact stepCost_eq_one hprofile hsoft target _
      have hrest := ih hrest (List.cons_ne_nil b path)
      simp only [walkCost, List.length_cons] at hrest ⊢
      omega

/-- **So a route costs as much as it has jumps.** -/
theorem cost_add_one_eq_length (hprofile : ctx.profile = .shortest)
    (hsoft : ctx.rules.soft = {}) (hfound : ctx.findRoute s goal = some found) :
    found.cost + 1 = found.path.length := by
  rw [cost_of_findRoute hfound]
  exact walkCost_add_one_eq_length hprofile hsoft (walk_of_findRoute hfound)

/-- **Fewer constraints make no route dearer**: where a graph is widened and rules are taken
out, there is a route where there was one, and it costs no more; under the shortest
profile, where no rule is soft, it has no more jumps. -/
theorem findRoute_relaxed {before after : Snapshot} {policy : Policy} {profile : Profile}
    (hwithin : before.Within after) (hkept : kept.Sublist rules)
    (hfound : findRoute ⟨before, .ofList rules, policy, profile⟩ s goal = some found) :
    ∃ other, findRoute ⟨after, .ofList kept, policy, profile⟩ s goal = some other ∧
      other.cost ≤ found.cost ∧
      (profile = .shortest → (∀ rule ∈ rules, rule.hard = true) →
        other.path.length ≤ found.path.length) := by
  obtain ⟨other, hother, hcost⟩ :=
    (relaxed_of_sublist hwithin hkept policy profile).exists_findRoute hfound
  refine ⟨other, hother, hcost, fun hprofile hhard => ?_⟩
  have hjumps := cost_add_one_eq_length hprofile (RuleSet.soft_ofList_eq_empty hhard) hfound
  have hjumps' := cost_add_one_eq_length hprofile
    (RuleSet.soft_ofList_eq_empty fun rule hrule => hhard rule (hkept.subset hrule)) hother
  omega

/-- A snapshot of five systems in their own constellations of one region, with connections
that are open both ways. -/
def ringSnapshot (gates : List (SystemId × SystemId)) : Snapshot :=
  .ofGraph
    (.ofGates
      ([1, 2, 3, 4, 5].map fun id =>
        { id, name := "", security := 0, constellation := 10 * id, region := 1 })
      gates)
    { minNodes := 1, critical := [] } 1

/-- The way round a blocked constellation takes three jumps; once the rule is taken out and
a connection is put in, two are enough. -/
theorem findRoute_relaxed_ring :
    let policy : Policy := { zones := [{ category := .highsec, regions := [1] }] }
    let gates := [(1, 2), (2, 4), (1, 3), (3, 5), (5, 4)]
    findRoute ⟨ringSnapshot gates, .ofList [{ id := 1, scope := .constellation 20, hard := true }],
        policy, .shortest⟩ 1 4 = some ⟨[1, 3, 5, 4], 3, 0⟩ ∧
      ∃ other, findRoute ⟨ringSnapshot ((3, 4) :: gates), .ofList [], policy, .shortest⟩ 1 4 =
          some other ∧ other.cost ≤ 3 ∧ other.path.length ≤ 4 := by
  intro policy gates
  have hfound : findRoute ⟨ringSnapshot gates,
      .ofList [{ id := 1, scope := .constellation 20, hard := true }], policy, .shortest⟩ 1 4 =
        some ⟨[1, 3, 5, 4], 3, 0⟩ := by
    decide +kernel
  have hwithin : (ringSnapshot gates).Within (ringSnapshot ((3, 4) :: gates)) :=
    Snapshot.within_of_gates (List.subset_cons_self _ _) _ _ _ _
  obtain ⟨other, hother, hcost, hjumps⟩ :=
    findRoute_relaxed hwithin (List.nil_sublist _) hfound
  exact ⟨hfound, other, hother, hcost, hjumps rfl (by decide)⟩

end SearchContext

end StarFreight
