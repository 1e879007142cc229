import Mathlib.Algebra.Order.BigOperators.Group.List
import Mathlib.Algebra.Order.Ring.Nat
import StarFreight.Proofs.Search.Invariant
/-!
# Search — rounds

What one round of a search can lead to (`RoundStep`), and why there are not many:
every round takes an entry off the frontier, and what it adds is paid for by the
arcs of the system it settles (`budget`). So a search comes to its end by itself
(`Ends`), however it is started, and the rounds it is given never run out
(`run_ends`).
-/

namespace StarFreight

namespace Search

variable {ctx : SearchContext} {s goal u : SystemId} {floor rounds : Nat} {state : Search}

/-! ## The budget -/

/-- Taking one more element out of a sum lowers it by at least that element. -/
theorem sum_filter_add_le {α : Type} {f : α → Nat} {p q : α → Bool}
    (hqp : ∀ a, q a = true → p a = true) {a : α} (hp : p a = true) (hq : q a = false)
    {l : List α} (ha : a ∈ l) :
    ((l.filter q).map f).sum + f a ≤ ((l.filter p).map f).sum := by
  induction l with
  | nil => cases ha
  | cons b l ih =>
    rcases List.mem_cons.mp ha with rfl | ha
    · have hsub : (l.filter q).Sublist (l.filter p) := List.monotone_filter_right l hqp
      have hle := (hsub.map f).sum_le_sum fun _ _ => Nat.zero_le _
      simp only [List.filter_cons, hp, hq, if_true, Bool.false_eq_true, if_false, List.map_cons,
        List.sum_cons]
      omega
    · have hrest := ih ha
      cases hb : q b with
      | true =>
        simp only [List.filter_cons, hb, hqp b hb, if_true, List.map_cons, List.sum_cons]
        omega
      | false =>
        rw [List.filter_cons_of_neg (by simp [hb])]
        have hmore := ((List.sublist_cons_self b l).filter p).map f
        exact le_trans hrest (hmore.sum_le_sum fun _ _ => Nat.zero_le _)

/-- The arcs out of systems that are not settled. -/
def openArcs (ctx : SearchContext) (state : Search) : Nat :=
  ((ctx.snapshot.graph.adjacency.toList.filter fun entry =>
    !state.isSettled entry.1).map (·.2.size)).sum

/-- What a search may still take off its frontier: the entries there are, and one
for every arc out of a system that is not settled. -/
def budget (ctx : SearchContext) (state : Search) : Nat :=
  state.frontier.length + openArcs ctx state

/-- The open arcs are told by what is settled. -/
theorem openArcs_congr {after : Search} (h : ∀ u c, after.Settled u c ↔ state.Settled u c) :
    openArcs ctx after = openArcs ctx state := by
  have hsame : ∀ u, after.isSettled u = state.isSettled u := fun u =>
    Bool.eq_iff_iff.mpr (by simp only [isSettled_iff, h])
  simp only [openArcs, hsame]

/-- Settling a system closes its arcs. -/
theorem openArcs_add_le {after : Search} (hmono : ∀ u c, state.Settled u c → after.Settled u c)
    (hopen : state.isSettled u = false) (hu : after.isSettled u = true) :
    openArcs ctx after + (ctx.snapshot.neighbours u).length ≤ openArcs ctx state := by
  have hstill : ∀ entry : SystemId × Array SystemId,
      (!after.isSettled entry.1) = true → (!state.isSettled entry.1) = true := by
    intro entry he
    rw [Bool.not_eq_true'] at he ⊢
    by_contra hsettled
    obtain ⟨c, hc⟩ := isSettled_iff.mp (Bool.not_eq_false _ ▸ hsettled)
    rw [isSettled_iff.mpr ⟨c, hmono _ c hc⟩] at he
    cases he
  unfold openArcs
  cases harcs : ctx.snapshot.graph.adjacency[u]? with
  | none =>
    have hnone : (ctx.snapshot.neighbours u).length = 0 := by
      simp [Snapshot.neighbours, Graph.neighbours, Std.TreeMap.getD_eq_getD_getElem?, harcs]
    rw [hnone, Nat.add_zero]
    exact ((List.monotone_filter_right _ hstill).map _).sum_le_sum fun _ _ => Nat.zero_le _
  | some arcs =>
    have hsize : (ctx.snapshot.neighbours u).length = arcs.size := by
      simp [Snapshot.neighbours, Graph.neighbours, Std.TreeMap.getD_eq_getD_getElem?, harcs]
    rw [hsize]
    exact sum_filter_add_le (f := fun entry : SystemId × Array SystemId => entry.2.size)
      (a := (u, arcs)) hstill (by simp [hopen]) (by simp [hu])
      (Std.TreeMap.mem_toList_iff_getElem?_eq_some.mpr harcs)

/-- A search starts out with fewer entries and arcs than it is given rounds. -/
theorem budget_start_lt (ctx : SearchContext) (s : SystemId) :
    budget ctx (Search.start s) < ctx.rounds := by
  have harcs : openArcs ctx (Search.start s) ≤ ctx.snapshot.graph.arcCount :=
    (List.filter_sublist.map _).sum_le_sum fun _ _ => Nat.zero_le _
  have hlength : (Search.start s).frontier.length = 1 := rfl
  unfold budget SearchContext.rounds
  omega

/-! ## One round -/

/-- What one round of a search can lead to. -/
inductive RoundStep (ctx : SearchContext) (s goal : SystemId) (state : Search) : Round → Prop
  /-- The frontier is empty. -/
  | exhausted (hfrontier : state.frontier = []) : RoundStep ctx s goal state .exhausted
  /-- The goal comes first, at the cost of its label. -/
  | arrived {cost : Nat} {rest : Frontier} (hfrontier : state.frontier = ⟨goal, cost⟩ :: rest)
      (hcost : state.costOf? goal = some cost) :
      RoundStep ctx s goal state (.arrived cost { state with frontier := rest })
  /-- The first entry was overtaken. -/
  | overtaken {entry : FrontierEntry} {rest : Frontier} {c : Nat}
      (hfrontier : state.frontier = entry :: rest) (hcost : state.costOf? entry.node = some c)
      (hlt : c < entry.cost) : RoundStep ctx s goal state (.onward { state with frontier := rest })
  /-- The search goes on from the first entry. -/
  | expanded {entry : FrontierEntry} {rest : Frontier} (hfrontier : state.frontier = entry :: rest)
      (hcost : state.costOf? entry.node = some entry.cost) (hgoal : entry.node ≠ goal) :
      RoundStep ctx s goal state
        (.onward (expand ctx s goal entry.node entry.cost { state with frontier := rest }))

/-- A round of a sound search leads to nothing else. -/
theorem roundStep_advance (h : Sound ctx s goal floor noWaiver state) :
    RoundStep ctx s goal state (advance ctx s goal state) := by
  cases hfrontier : state.frontier with
  | nil =>
    rw [advance, hfrontier]
    exact .exhausted hfrontier
  | cons entry rest =>
    obtain ⟨-, c, hle, hcost⟩ := h.entry entry (hfrontier ▸ List.mem_cons_self)
    obtain ⟨label, hlabel, rfl⟩ := Option.map_eq_some_iff.mp hcost
    by_cases hlt : label.cost < entry.cost
    · simp only [advance, hfrontier, hlabel, if_pos hlt]
      exact .overtaken hfrontier hcost hlt
    · have heq : label.cost = entry.cost := by omega
      rw [heq] at hcost
      by_cases hgoal : entry.node = goal
      · simp only [advance, hfrontier, hlabel, heq, if_neg (Nat.lt_irrefl entry.cost), if_pos hgoal]
        exact .arrived (hgoal ▸ hfrontier) (hgoal ▸ hcost)
      · simp only [advance, hfrontier, hlabel, heq, if_neg (Nat.lt_irrefl entry.cost), if_neg hgoal]
        exact .expanded hfrontier hcost hgoal

/-- **What one round leads to.** The frontier is empty; or the goal comes first, at
the cost of its label; or the search goes on, sound as before, with less to take
off its frontier. -/
theorem advance_cases (h : Sound ctx s goal floor noWaiver state) :
    (state.frontier = [] ∧ advance ctx s goal state = .exhausted) ∨
      (∃ cost rest, state.frontier = ⟨goal, cost⟩ :: rest ∧ state.costOf? goal = some cost ∧
        advance ctx s goal state = .arrived cost { state with frontier := rest }) ∨
      ∃ after floor', advance ctx s goal state = .onward after ∧
        Sound ctx s goal floor' noWaiver after ∧ budget ctx after < budget ctx state := by
  have hround := roundStep_advance h
  generalize advance ctx s goal state = round at hround
  cases hround with
  | exhausted hfrontier => exact .inl ⟨hfrontier, rfl⟩
  | arrived hfrontier hcost => exact .inr (.inl ⟨_, _, hfrontier, hcost, rfl⟩)
  | overtaken hfrontier hcost hlt =>
    obtain ⟨hsound, hsettled⟩ := h.drop hfrontier hcost hlt
    refine .inr (.inr ⟨_, floor, rfl, hsound, ?_⟩)
    simp only [budget, openArcs_congr hsettled, hfrontier, List.length_cons]
    omega
  | @expanded entry rest hfrontier hcost hgoal =>
    obtain ⟨hsound, hsettled, hgrowth⟩ := h.goOn hfrontier hcost hgoal
    refine .inr (.inr ⟨_, entry.cost, rfl, hsound, ?_⟩)
    have hopen : state.isSettled entry.node = false := by
      simp [isSettled, hcost, hfrontier]
    have hclosed := isSettled_iff.mpr ⟨entry.cost, (hsettled _ _).mpr (.inr rfl)⟩
    have hpaid : openArcs ctx _ + (ctx.snapshot.neighbours entry.node).length ≤
        openArcs ctx state :=
      openArcs_add_le (fun u c hu => (hsettled u c).mpr (.inl hu)) hopen hclosed
    simp only [budget, hfrontier, List.length_cons]
    omega

/-! ## All rounds -/

/-- A search comes to an end: it arrives at the goal at a cost, or nothing is left
to go on from. No bound on its rounds is part of it. -/
inductive Ends (ctx : SearchContext) (s goal : SystemId) :
    Search → Option (Nat × Search) → Prop
  /-- The goal is reached in this round. -/
  | arrived {state last : Search} {cost : Nat} :
      advance ctx s goal state = .arrived cost last → Ends ctx s goal state (some (cost, last))
  /-- There is nothing to go on from in this round. -/
  | exhausted {state : Search} : advance ctx s goal state = .exhausted → Ends ctx s goal state none
  /-- The search goes on after this round and comes to an end. -/
  | onward {state after : Search} {result : Option (Nat × Search)} :
      advance ctx s goal state = .onward after → Ends ctx s goal after result →
      Ends ctx s goal state result

/-- It comes to one end only. -/
theorem Ends.unique {result result' : Option (Nat × Search)} (h : Ends ctx s goal state result)
    (h' : Ends ctx s goal state result') : result = result' := by
  induction h with
  | arrived hround | exhausted hround =>
    -- no other constructor fits the round
    cases h' <;> simp_all
  | onward hround _ ih =>
    cases h' with
    | arrived hround' | exhausted hround' =>
      rw [hround] at hround'
      cases hround'
    | onward hround' hrest =>
      rw [hround] at hround'
      cases hround'
      exact ih hrest

/-- **A search within its budget comes to an end, and a run with more rounds than
that returns what it ends with.** -/
theorem run_ends (h : Sound ctx s goal floor noWaiver state) (hbudget : budget ctx state < rounds) :
    Ends ctx s goal state (run ctx s goal rounds state) := by
  -- a round costs one of the rounds and at least one of the budget
  induction rounds generalizing state floor with
  | zero => omega
  | succ rounds ih =>
    rcases advance_cases h with ⟨-, hround⟩ | ⟨cost, rest, -, -, hround⟩ |
      ⟨after, floor', hround, hsound, hless⟩
    · rw [run, hround]
      exact .exhausted hround
    · rw [run, hround]
      exact .arrived hround
    · rw [run, hround]
      exact .onward hround (ih hsound (by omega))

/-- **A search started anywhere comes to an end with what its run returns.** -/
theorem ends_run_start (ctx : SearchContext) (s goal : SystemId) :
    Ends ctx s goal (Search.start s) (run ctx s goal ctx.rounds (Search.start s)) :=
  run_ends (sound_start ctx s goal) (budget_start_lt ctx s)

/-- **What a search ends with**: a sound search whose cheapest entry is the goal's,
or one that has no entries left. -/
theorem run_cases (h : Sound ctx s goal floor noWaiver state)
    (hbudget : budget ctx state < rounds) :
    ∃ last floor', Sound ctx s goal floor' noWaiver last ∧
      ((last.frontier = [] ∧ run ctx s goal rounds state = none) ∨
        ∃ cost rest, last.frontier = ⟨goal, cost⟩ :: rest ∧ last.costOf? goal = some cost ∧
          run ctx s goal rounds state = some (cost, { last with frontier := rest })) := by
  induction rounds generalizing state floor with
  | zero => omega
  | succ rounds ih =>
    rcases advance_cases h with ⟨hfrontier, hround⟩ | ⟨cost, rest, hfrontier, hcost, hround⟩ |
      ⟨after, floor', hround, hsound, hless⟩
    · exact ⟨state, floor, h, .inl ⟨hfrontier, by rw [run, hround]⟩⟩
    · exact ⟨state, floor, h, .inr ⟨cost, rest, hfrontier, hcost, by rw [run, hround]⟩⟩
    · rw [run, hround]
      exact ih hsound (by omega)

end Search

end StarFreight
