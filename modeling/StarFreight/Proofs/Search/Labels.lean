import StarFreight.Proofs.Search.Walk
import StarFreight.Search.Cheapest
/-!
# Search — labels and settled systems

What a visit does to the labels of a search. A system is settled once the entry
that carries the cost of its label has left the frontier (`Settled`): nothing
records it, and it can be told all the same. A visit reaches a neighbour by a
move or leaves labels and frontier alone (`visit_cases`); reaching a system
either changes nothing (`reach_of_le`) or labels it anew (`reach_of_lt`), which
neither settles nor unsettles anything (`settled_relabel`).
-/

namespace StarFreight

namespace Search

variable {s goal current next source u : SystemId} {cost c : Nat} {state : Search}

/-- The cost on the label of a system. -/
def costOf? (state : Search) (u : SystemId) : Option Nat :=
  state.labels[u]?.map (·.cost)

/-- A system is settled at the cost of its label once the entry of that cost has
left the frontier. -/
def Settled (state : Search) (u : SystemId) (c : Nat) : Prop :=
  state.costOf? u = some c ∧ ⟨u, c⟩ ∉ state.frontier

/-- Whether a system is settled at any cost. -/
def isSettled (state : Search) (u : SystemId) : Bool :=
  (state.costOf? u).any fun c => !state.frontier.contains ⟨u, c⟩

theorem isSettled_iff : state.isSettled u = true ↔ ∃ c, state.Settled u c := by
  simp [isSettled, Settled, Option.any_eq_true]

/-! ## What a visit does -/

/-- A search with a system reached at a cost. -/
def relabel (state : Search) (source next : SystemId) (cost : Nat) : Search :=
  { state with
    labels := state.labels.insert next ⟨cost, some source⟩
    frontier := Frontier.insert ⟨next, cost⟩ state.frontier }

/-- Reaching a system that was reached as cheaply before changes nothing. -/
theorem reach_of_le (hcost : state.costOf? next = some c) (hle : c ≤ cost) :
    state.reach source next cost = state := by
  obtain ⟨label, hlabel, rfl⟩ := Option.map_eq_some_iff.mp hcost
  simp [reach, hlabel, Nat.not_lt.mpr hle]

/-- Reaching a system for the first time or for less labels it anew. -/
theorem reach_of_lt (hlt : ∀ c, state.costOf? next = some c → cost < c) :
    state.reach source next cost = state.relabel source next cost := by
  unfold reach relabel
  cases hlabel : state.labels[next]? with
  | none => simp
  | some label =>
    have hcost : cost < label.cost := hlt label.cost (by simp [costOf?, hlabel])
    simp [hcost]

/-- **A visit reaches the neighbour by a move**, or else there is no move to it and
labels and frontier stay as they are. -/
theorem visit_cases (ctx : SearchContext) (s goal current : SystemId) (cost : Nat)
    (state : Search) (hnext : next ∈ ctx.snapshot.neighbours current) :
    (ctx.Move s goal current next ∧
        visit ctx s goal current cost state next =
          state.reach current next (cost + ctx.moveCost goal current next)) ∨
      (¬ ctx.Move s goal current next ∧
        ∃ excluded, visit ctx s goal current cost state next = { state with excluded }) := by
  unfold visit
  split
  · next h => exact .inr ⟨fun hmove => hmove.ne_start h, _, rfl⟩
  · next hs =>
    cases hknown : ctx.snapshot.system? next with
    | none =>
      refine .inr ⟨fun hmove => ?_, _, rfl⟩
      obtain ⟨target, htarget, -⟩ := hmove.admitted
      rw [hknown] at htarget
      cases htarget
    | some target =>
      have hmove : ctx.Move s goal current next ↔
          ctx.admits current target (phaseTowards goal next) = true := by
        refine ⟨fun hmove => ?_, fun hadmits => ⟨hs, hnext, target, hknown, hadmits⟩⟩
        obtain ⟨t, ht, hadmits⟩ := hmove.admitted
        rw [hknown] at ht
        exact Option.some.inj ht ▸ hadmits
      simp only [hmove, SearchContext.admits, SearchContext.moveCost, hknown]
      split
      · next hrefuses => exact .inr ⟨by simp [hrefuses], _, rfl⟩
      · next hrefuses =>
        split
        · next hforbids => exact .inr ⟨by simp [hforbids], _, rfl⟩
        · next hforbids => exact .inl ⟨by simp [hrefuses, hforbids], rfl⟩

/-! ## Labelling a system anew -/

/-- Only the label of the system reached changes. -/
theorem costOf?_relabel : (state.relabel source next cost).costOf? u =
    if next = u then some cost else state.costOf? u := by
  unfold costOf? relabel
  rw [lookup_insert]
  split <;> rfl

/-- **Labelling a system that is not settled settles nothing and unsettles
nothing.** -/
theorem settled_relabel (hnext : ∀ c, ¬ state.Settled next c) :
    (state.relabel source next cost).Settled u c ↔ state.Settled u c := by
  unfold Settled
  rw [costOf?_relabel]
  by_cases hu : next = u
  · -- the new label has its entry in the frontier
    subst hu
    constructor
    · rintro ⟨hcost, hmem⟩
      rw [if_pos rfl] at hcost
      exact absurd (Frontier.mem_insert.mpr (.inl (by rw [Option.some.inj hcost]))) hmem
    · exact fun h => absurd h (hnext c)
  · have hmem : (⟨u, c⟩ : FrontierEntry) ∈ Frontier.insert ⟨next, cost⟩ state.frontier ↔
        ⟨u, c⟩ ∈ state.frontier := by
      rw [Frontier.mem_insert, or_iff_right]
      intro he
      exact hu (congrArg FrontierEntry.node he).symm
    rw [if_neg hu]
    exact and_congr_right fun _ => not_congr hmem

end Search

end StarFreight
