import StarFreight.Proofs.Search.Course
import StarFreight.Proofs.Search.WayBack
/-!
# Search — permanence

What the rounds of a search owe to those before them. A round takes the cheapest entry, and
whatever is reached from there on costs at least as much (`onward_cases`); so nothing
undercuts a system that was gone on from, and its label stays as it is (`labels_onward`). Over
any stretch of a course this is `Later`: the systems settled are those settled before and those
gone on from since (`later_of_course`). A loop as a whole is told by `Lawful`, from the first
round to the one that ends the search (`course_lawful`).
-/

namespace StarFreight

namespace Search

variable {ctx : SearchContext} {s goal current next source u v : SystemId}
  {cost floor floor' rounds c : Nat} {state after later : Search} {e : FrontierEntry}
  {between : List FrontierEntry} {front behind : List Search}

/-! ## Labels that nothing undercuts -/

/-- A label that costs no more is not touched when a system is reached. -/
theorem labels_reach_of_le (hcost : state.costOf? u = some c) (hle : c ≤ cost) :
    (state.reach source next cost).labels[u]? = state.labels[u]? := by
  by_cases hlt : ∀ d, state.costOf? next = some d → cost < d
  · have hne : next ≠ u := by
      rintro rfl
      exact absurd (hlt c hcost) (Nat.not_lt.mpr hle)
    rw [reach_of_lt hlt]
    change (state.labels.insert next _)[u]? = _
    rw [lookup_insert, if_neg hne]
  · push Not at hlt
    obtain ⟨d, hd, hdle⟩ := hlt
    rw [reach_of_le hd hdle]

/-- Nor is it by a visit. -/
theorem labels_visit_of_le (hcost : state.costOf? u = some c) (hle : c ≤ cost)
    (hnext : next ∈ ctx.snapshot.neighbours current) :
    (visit ctx s goal current cost state next).labels[u]? = state.labels[u]? := by
  rcases visit_cases ctx s goal current cost state hnext with ⟨-, heq⟩ | ⟨-, excluded, heq⟩
  · rw [heq]
    exact labels_reach_of_le hcost (le_trans hle (Nat.le_add_right _ _))
  · rw [heq]

/-- **Going on from a system leaves every label alone that costs no more than its own.** -/
theorem labels_expand_of_le (hcost : state.costOf? u = some c) (hle : c ≤ cost) :
    (expand ctx s goal current cost state).labels[u]? = state.labels[u]? := by
  -- the label is the same before each visit, so none of them undercuts it
  refine List.foldlRecOn (motive := fun after : Search => after.labels[u]? = state.labels[u]?)
    _ _ rfl ?_
  intro after hsame next hnext
  have hafter : after.costOf? u = some c := by rw [costOf?, hsame]; exact hcost
  rw [labels_visit_of_le hafter hle hnext, hsame]

/-! ## One round on -/

/-- The entry gone on from is the first, and it costs what the label of its system says. -/
theorem Sound.of_goingFrom? (h : Sound ctx s goal floor noWaiver state)
    (hfrom : goingFrom? goal state = some e) :
    state.frontier.head? = some e ∧ state.costOf? e.node = some e.cost := by
  obtain ⟨hhead, hcounts⟩ := Option.filter_eq_some_iff.mp hfrom
  rw [Bool.and_eq_true, Option.any_eq_true] at hcounts
  obtain ⟨⟨d, hd, hle⟩, -⟩ := hcounts
  obtain ⟨-, d', hle', hd'⟩ := h.entry e (List.mem_of_head? hhead)
  obtain rfl : d = d' := Option.some.inj (hd.symm.trans hd')
  obtain rfl : e.cost = d := le_antisymm (of_decide_eq_true hle) hle'
  exact ⟨hhead, hd⟩

/-- No system is gone on from that is settled. -/
theorem Sound.not_settled_of_goingFrom? (h : Sound ctx s goal floor noWaiver state)
    (hfrom : goingFrom? goal state = some e) : ∀ c, ¬ state.Settled e.node c := by
  intro c hc
  obtain ⟨hhead, hcost⟩ := h.of_goingFrom? hfrom
  obtain rfl : e.cost = c := Option.some.inj (hcost.symm.trans hc.1)
  exact hc.2 (List.mem_of_head? hhead)

/-- **A round on keeps the labels of settled systems**, and that of the system it settles. -/
theorem labels_onward (h : Sound ctx s goal floor noWaiver state)
    (hround : advance ctx s goal state = .onward after) (hu : after.Settled u c) :
    after.labels[u]? = state.labels[u]? := by
  obtain ⟨entry, rest, -, hfloor, -, ⟨-, rfl, -⟩ | ⟨hfrom, rfl, hsettled⟩⟩ :=
    onward_cases h hround
  · rfl
  · rcases (hsettled u c).mp hu with hbefore | rfl
    · exact labels_expand_of_le hbefore.1 (le_trans (h.settled_le u c hbefore) hfloor)
    · exact labels_expand_of_le (h.of_goingFrom? hfrom).2 le_rfl

/-! ## Over a stretch of the course -/

/-- What a search owes to an earlier state of it, which had gone on from nothing above the
floor, with the entries gone on from since. -/
structure Later (ctx : SearchContext) (s goal : SystemId) (floor : Nat) (state : Search)
    (between : List FrontierEntry) (later : Search) : Prop where
  sound : ∃ floor', floor ≤ floor' ∧ Sound ctx s goal floor' noWaiver later
  settled : ∀ u c, later.Settled u c ↔ state.Settled u c ∨ ⟨u, c⟩ ∈ between
  /-- The labels of the systems settled by then are what they were. -/
  kept : ∀ u c, state.Settled u c → later.labels[u]? = state.labels[u]?

theorem Later.refl (h : Sound ctx s goal floor noWaiver state) :
    Later ctx s goal floor state [] state where
  sound := ⟨floor, le_rfl, h⟩
  settled _ _ := (or_iff_left List.not_mem_nil).symm
  kept _ _ _ := rfl

/-- What comes later than a round comes later than the state before it. -/
theorem Later.onward (h : Sound ctx s goal floor noWaiver state)
    (hround : advance ctx s goal state = .onward after) (hle : floor ≤ floor')
    (hlater : Later ctx s goal floor' after between later) :
    Later ctx s goal floor state ((goingFrom? goal state).toList ++ between) later where
  sound := by
    obtain ⟨top, htop, hsound⟩ := hlater.sound
    exact ⟨top, le_trans hle htop, hsound⟩
  settled u c := by
    rw [hlater.settled, settled_onward h hround, List.mem_append, Option.mem_toList, or_assoc]
  kept u c hu := by
    have hafter : after.Settled u c := (settled_onward h hround).mpr (.inl hu)
    rw [hlater.kept u c hafter, labels_onward h hround hafter]

/-- **Every state of a course is later than the first**, by what was gone on from in front of
it. -/
theorem later_of_course (h : Sound ctx s goal floor noWaiver state)
    (hcourse : course ctx s goal rounds state = front ++ later :: behind) :
    Later ctx s goal floor state (front.filterMap (goingFrom? goal)) later := by
  induction rounds generalizing state floor front with
  | zero => simp [course] at hcourse
  | succ rounds ih =>
    rw [course] at hcourse
    split at hcourse
    · next after hround =>
      cases front with
      | nil =>
        obtain ⟨rfl, -⟩ := List.cons_eq_cons.mp hcourse
        exact .refl h
      | cons first front =>
        obtain ⟨rfl, hrest⟩ := List.cons_eq_cons.mp hcourse
        obtain ⟨entry, _, -, hfloor, hsound, -⟩ := onward_cases h hround
        rw [filterMap_goingFrom?_cons]
        exact (ih hsound hrest).onward h hround hfloor
    · -- the search ends in this round
      obtain ⟨rfl, rfl, -⟩ : front = [] ∧ state = later ∧ behind = [] := by
        cases front with
        | nil => simpa using hcourse
        | cons first front => simp at hcourse
      exact .refl h

/-- What holds between a state of a course and any that comes after it. -/
structure Precedes (goal : SystemId) (state later : Search) : Prop where
  /-- The entry taken later costs no less. -/
  taken : ∀ e, state.frontier.head? = some e → ∀ e', later.frontier.head? = some e' →
    e.cost ≤ e'.cost
  /-- A system gone on from is not gone on from later. -/
  once : ∀ e, goingFrom? goal state = some e → ∀ e', goingFrom? goal later = some e' →
    e.node ≠ e'.node
  /-- Its label stays as it was when it was gone on from. -/
  kept : ∀ e, goingFrom? goal state = some e → ∃ label, state.labels[e.node]? = some label ∧
    label.cost = e.cost ∧ later.labels[e.node]? = some label

/-- **A state precedes all that come after its round.** -/
theorem precedes_of_later {entry : FrontierEntry} {rest : Frontier}
    (h : Sound ctx s goal floor noWaiver state)
    (hround : advance ctx s goal state = .onward after) (hfrontier : state.frontier = entry :: rest)
    (hlater : Later ctx s goal entry.cost after between later) : Precedes goal state later := by
  obtain ⟨top, htop, hsound⟩ := hlater.sound
  constructor
  case taken =>
    intro e he e' he'
    rw [hfrontier, List.head?_cons] at he
    obtain rfl := Option.some.inj he
    exact le_trans htop (hsound.entry e' (List.mem_of_head? he')).1
  case once =>
    intro e hfrom e' hfrom' hsame
    have hsettled : after.Settled e.node e.cost := (settled_onward h hround).mpr (.inr hfrom)
    have hstill : later.Settled e.node e.cost := (hlater.settled _ _).mpr (.inl hsettled)
    exact hsound.not_settled_of_goingFrom? hfrom' e.cost (hsame ▸ hstill)
  case kept =>
    intro e hfrom
    have hsettled : after.Settled e.node e.cost := (settled_onward h hround).mpr (.inr hfrom)
    obtain ⟨label, hlabel, hcost⟩ := Option.map_eq_some_iff.mp hsettled.1
    exact ⟨label, by rw [← labels_onward h hround hsettled, hlabel], hcost,
      by rw [hlater.kept _ _ hsettled, hlabel]⟩

theorem pairwise_course (h : Sound ctx s goal floor noWaiver state) :
    (course ctx s goal rounds state).Pairwise (Precedes goal) := by
  induction rounds generalizing state floor with
  | zero => exact .nil
  | succ rounds ih =>
    rw [course]
    split
    · next after hround =>
      obtain ⟨entry, rest, hfrontier, -, hsound, -⟩ := onward_cases h hround
      refine List.pairwise_cons.mpr ⟨fun later hmem => ?_, ih hsound⟩
      obtain ⟨front, behind, hcourse⟩ := List.append_of_mem hmem
      exact precedes_of_later h hround hfrontier (later_of_course hsound hcourse)
    · exact List.pairwise_singleton _ _

/-! ## The whole course -/

/-- A path is the walk that labels show to a system of cost `c`. -/
structure Shows (ctx : SearchContext) (s goal : SystemId) (labels : Std.TreeMap SystemId Label)
    (v : SystemId) (c : Nat) (path : List SystemId) : Prop where
  /-- It is read off them whole. -/
  read : trace labels c v [] = path
  /-- It is the only way back. -/
  back : ∀ other, LeadsBack labels s v other ↔ other = path
  trail : ctx.Trail s goal v path
  cost : ctx.walkCost goal path = c

/-- **The labels of a sound search show a walk** to every system that was reached, at the cost
recorded. -/
theorem Sound.exists_shows (h : Sound ctx s goal floor noWaiver state)
    (hcost : state.costOf? v = some c) : ∃ path, Shows ctx s goal state.labels v c path := by
  obtain ⟨path, hback, hlength⟩ := h.exists_leadsBack hcost
  obtain ⟨walk, htrace, htrail, hwalk⟩ := h.trace_eq hcost le_rfl []
  rw [List.append_nil] at htrace
  -- the walk that is read off is the way back
  have hsame : walk = path := by
    rw [← htrace, hback.trace_eq h.start hlength, List.append_nil]
  subst hsame
  refine ⟨walk, htrace, fun other => ⟨fun hother => hother.unique hback, ?_⟩, htrail, hwalk⟩
  rintro rfl
  exact hback

/-- When the systems settled are those gone on from, a system that was reached waits in the
frontier exactly as long as it was not gone on from. -/
theorem mem_frontier_iff {done : List FrontierEntry}
    (hsettled : ∀ u c, state.Settled u c ↔ ⟨u, c⟩ ∈ done) (hcost : state.costOf? v = some c) :
    ⟨v, c⟩ ∈ state.frontier ↔ v ∉ done.map (·.node) := by
  constructor
  · intro hwaits hmem
    obtain ⟨e, he, rfl⟩ := List.mem_map.mp hmem
    have hdone : state.Settled e.node e.cost := (hsettled e.node e.cost).mpr he
    obtain rfl : c = e.cost := Option.some.inj (hcost.symm.trans hdone.1)
    exact hdone.2 hwaits
  · intro hnot
    by_contra hgone
    exact hnot (List.mem_map_of_mem ((hsettled v c).mp ⟨hcost, hgone⟩))

theorem head?_course : (course ctx s goal (rounds + 1) state).head? = some state := by
  rw [course]
  split <;> rfl

/-- What a round on does: it takes the first entry, and goes on from it or drops it. -/
structure RoundOn (ctx : SearchContext) (s goal : SystemId) (state after : Search) : Prop where
  round : advance ctx s goal state = .onward after
  takes : ∃ entry rest, state.frontier = entry :: rest ∧
    ((goingFrom? goal state = some entry ∧
        after = expand ctx s goal entry.node entry.cost { state with frontier := rest }) ∨
      goingFrom? goal state = none ∧ after = { state with frontier := rest })

theorem roundOn_of_onward (h : Sound ctx s goal floor noWaiver state)
    (hround : advance ctx s goal state = .onward after) : RoundOn ctx s goal state after := by
  obtain ⟨entry, rest, hfrontier, -, -, ⟨hnone, hafter, -⟩ | ⟨hfrom, hafter, -⟩⟩ :=
    onward_cases h hround
  · exact ⟨hround, entry, rest, hfrontier, .inr ⟨hnone, hafter⟩⟩
  · exact ⟨hround, entry, rest, hfrontier, .inl ⟨hfrom, hafter⟩⟩

/-- **Each state of a course is what the round before it leads to.** -/
theorem isChain_course (h : Sound ctx s goal floor noWaiver state) :
    (course ctx s goal rounds state).IsChain (RoundOn ctx s goal) := by
  induction rounds generalizing state floor with
  | zero => exact .nil
  | succ rounds ih =>
    rw [course]
    split
    · next after hround =>
      obtain ⟨_, hsound⟩ := sound_onward h hround
      refine List.isChain_cons.mpr ⟨fun first hfirst => ?_, ih hsound⟩
      cases rounds with
      | zero => cases hfirst
      | succ rounds =>
        rw [head?_course, Option.mem_some_iff] at hfirst
        exact hfirst ▸ roundOn_of_onward h hround
    · exact List.isChain_singleton _

/-- **A course within its budget breaks off nowhere**: its last round ends the search, with what
the run returns. -/
theorem exists_last_course (h : Sound ctx s goal floor noWaiver state)
    (hbudget : budget ctx state < rounds) :
    ∃ last, (course ctx s goal rounds state).getLast? = some last ∧
      (∀ after, advance ctx s goal last ≠ .onward after) ∧
      Ends ctx s goal last (run ctx s goal rounds state) := by
  induction rounds generalizing state floor with
  | zero => omega
  | succ rounds ih =>
    rcases advance_cases h with ⟨-, hround⟩ | ⟨cost, rest, -, -, hround⟩ |
      ⟨after, floor', hround, hsound, hless⟩
    · rw [course, run, hround]
      exact ⟨state, rfl, by simp [hround], .exhausted hround⟩
    · rw [course, run, hround]
      exact ⟨state, rfl, by simp [hround], .arrived hround⟩
    · obtain ⟨last, hlast, hend⟩ := ih hsound (by omega)
      rw [course, run, hround]
      refine ⟨last, ?_, hend⟩
      rw [List.getLast?_cons, hlast]
      rfl

/-- What a search from `s` to `goal` keeps to, told by its states before each of its rounds. -/
structure Lawful (ctx : SearchContext) (s goal : SystemId) (states : List Search) : Prop where
  /-- It starts out having reached nothing but its start. -/
  start : states.head? = some (Search.start s)
  onward : states.IsChain (RoundOn ctx s goal)
  /-- The last round ends it, and it returns what it ends with. -/
  ended : ∃ last, states.getLast? = some last ∧
    (∀ after, advance ctx s goal last ≠ .onward after) ∧
    Ends ctx s goal last (run ctx s goal ctx.rounds (Search.start s))
  /-- Before each round every cost recorded is that of the walk that the labels show. -/
  shown : ∀ state ∈ states, ∀ v c, state.costOf? v = some c →
    ∃ path, Shows ctx s goal state.labels v c path
  /-- Costs taken never fall; a system is gone on from once, and its label then lasts. -/
  precedes : states.Pairwise (Precedes goal)
  /-- A system that was reached has an entry of exactly the cost recorded, unless it was gone on
  from before. -/
  waits : ∀ front state behind, states = front ++ state :: behind →
    ∀ v c, state.costOf? v = some c →
      (⟨v, c⟩ ∈ state.frontier ↔ v ∉ (front.filterMap (goingFrom? goal)).map (·.node))

end Search

namespace SearchContext

/-- **The loop of a search keeps to its laws**, from the first round to the one that ends it: the
labels show walks of the costs that they record, the entries taken come in the order of their
costs, no system is gone on from twice or labelled anew once it was, and each of the others that
were reached has its entry. -/
theorem course_lawful (ctx : SearchContext) (s goal : SystemId) :
    Search.Lawful ctx s goal (Search.course ctx s goal ctx.rounds (Search.start s)) := by
  have hsound := Search.sound_start ctx s goal
  constructor
  case start => exact Search.head?_course
  case onward => exact Search.isChain_course hsound
  case ended => exact Search.exists_last_course hsound (Search.budget_start_lt ctx s)
  case shown =>
    intro state hstate v c hcost
    obtain ⟨front, behind, hcourse⟩ := List.append_of_mem hstate
    obtain ⟨_, -, hstill⟩ := (Search.later_of_course hsound hcourse).sound
    exact hstill.exists_shows hcost
  case precedes => exact Search.pairwise_course hsound
  case waits =>
    intro front state behind hcourse v c hcost
    have hlater := Search.later_of_course hsound hcourse
    refine Search.mem_frontier_iff (fun u d => ?_) hcost
    -- nothing was settled to start with, so all that is settled was gone on from
    rw [hlater.settled, or_iff_right (Search.not_settled_start s u d)]

/-- Two ways to a system: by the direct connection, which a soft rule makes the dearer one, or
through a third system. -/
def detour : SearchContext where
  snapshot :=
    .ofGraph
      (.ofArcs
        ([1, 2, 3, 4].map fun id =>
          { id, name := "", security := 0, constellation := 10 * id, region := 1 })
        [(1, 2), (1, 3), (3, 2), (2, 4)])
      { minNodes := 1, critical := [] } 1
  rules := .ofList
    [ { id := 1, scope := .edge ⟨1, 2⟩, severity := 1 }
    , { id := 2, scope := .system 4, severity := 2 } ]
  policy := {}
  profile := .shortest

/- The system has two entries; the one that was overtaken is taken and not gone on from. -/
example : ((Search.course detour 1 4 detour.rounds (Search.start 1)).filterMap (·.frontier.head?) =
      [⟨1, 0⟩, ⟨3, 1⟩, ⟨2, 2⟩, ⟨2, 4⟩, ⟨4, 9⟩]) ∧
    detour.expansions 1 4 = [⟨1, 0⟩, ⟨3, 1⟩, ⟨2, 2⟩] := by
  decide +kernel

end SearchContext

end StarFreight
