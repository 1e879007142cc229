import StarFreight.Proofs.Search.Labels
/-!
# Search — the invariant

What holds of a search between any two of its visits (`Sound`): no settled
system costs more than a floor and no entry less, every label was reached from
a settled system by a move, and the moves out of settled systems are accounted
for, but for those that are still to be looked at. One lemma for each thing
that a search does keeps it: reaching a system (`Sound.reach`), visiting a
neighbour (`Sound.visit`) or all of them (`Sound.expand`), dropping an
overtaken entry (`Sound.drop`), taking one that counts (`Sound.settle`) and so
going on from it (`Sound.goOn`).
-/

namespace StarFreight

namespace Search

variable {ctx : SearchContext} {s goal current next u v : SystemId}
variable {cost floor c : Nat} {waived : SystemId → SystemId → Prop} {state : Search}

/-- What holds of a search from `s` to `goal` that has gone on from systems of
cost `floor` at most, when the moves that are `waived` were not looked at yet. -/
structure Sound (ctx : SearchContext) (s goal : SystemId) (floor : Nat)
    (waived : SystemId → SystemId → Prop) (state : Search) : Prop where
  /-- The start was reached for nothing. -/
  start : state.labels[s]? = some ⟨0, none⟩
  /-- The cheapest entry comes first. -/
  ordered : Frontier.Ordered state.frontier
  /-- No system is entered twice at one cost. -/
  nodup : state.frontier.Nodup
  /-- No entry costs less than the floor or than the label of its system. -/
  entry : ∀ e ∈ state.frontier, floor ≤ e.cost ∧ ∃ d ≤ e.cost, state.costOf? e.node = some d
  /-- No settled system costs more than the floor. -/
  settled_le : ∀ u c, state.Settled u c → c ≤ floor
  /-- Every other label was reached from a settled system. -/
  parent : ∀ v label, state.labels[v]? = some label → v ≠ s →
    ∃ u c, label.parent = some u ∧ state.Settled u c ∧ ctx.Move s goal u v ∧
      label.cost = c + ctx.moveCost goal u v
  /-- A move out of a settled system leads to a label that costs no more. -/
  relaxed : ∀ u c v, state.Settled u c → ctx.Move s goal u v →
    waived u v ∨ ∃ d ≤ c + ctx.moveCost goal u v, state.costOf? v = some d
  /-- The search does not go on from the goal. -/
  goal_open : ∀ c, ¬ state.Settled goal c

/-- No move is waived. -/
def noWaiver : SystemId → SystemId → Prop :=
  fun _ _ => False

/-- The waiver while the neighbours of a system are visited: moves to those that
are left. -/
def leftOf (current : SystemId) (left : List SystemId) : SystemId → SystemId → Prop :=
  fun u v => u = current ∧ v ∈ left

namespace Sound

/-- The invariant is about labels and frontier only. -/
theorem excluded (h : Sound ctx s goal floor waived state) (excluded : Std.TreeSet SystemId) :
    Sound ctx s goal floor waived { state with excluded } :=
  ⟨h.start, h.ordered, h.nodup, h.entry, h.settled_le, h.parent, h.relaxed, h.goal_open⟩

/-- A waiver that was made use of, or that no move needs, is given up. -/
theorem waive {waived' : SystemId → SystemId → Prop} (h : Sound ctx s goal floor waived state)
    (hw : ∀ u c v, state.Settled u c → ctx.Move s goal u v → waived u v →
      waived' u v ∨ ∃ d ≤ c + ctx.moveCost goal u v, state.costOf? v = some d) :
    Sound ctx s goal floor waived' state :=
  { h with
    relaxed := fun u c v hu hmove => (h.relaxed u c v hu hmove).elim (hw u c v hu hmove) .inr }

/-- A system that a move could reach for less is not settled: the move starts
from the floor, and settled systems are below. -/
theorem not_settled_of_lt (h : Sound ctx s goal cost waived state)
    (hlt : ∀ d, state.costOf? next = some d → cost < d) : ∀ d, ¬ state.Settled next d := by
  intro d hd
  have hle := h.settled_le next d hd
  have := hlt d hd.1
  omega

/-- **Labelling a system anew keeps the invariant**, when a move from a system
settled at the floor reaches it for less than its label says. -/
theorem relabel (h : Sound ctx s goal cost waived state) (hcurrent : state.Settled current cost)
    (hmove : ctx.Move s goal current next)
    (hlt : ∀ d, state.costOf? next = some d → cost + ctx.moveCost goal current next < d) :
    Sound ctx s goal cost waived
      (state.relabel current next (cost + ctx.moveCost goal current next)) := by
  have hopen : ∀ d, ¬ state.Settled next d :=
    h.not_settled_of_lt fun d hd => by have := hlt d hd; omega
  have hsettled : ∀ u c, (state.relabel current next
      (cost + ctx.moveCost goal current next)).Settled u c ↔ state.Settled u c :=
    fun u c => settled_relabel hopen
  -- labels only ever get cheaper
  have hcheaper : ∀ v d, state.costOf? v = some d → ∃ d' ≤ d, (state.relabel current next
      (cost + ctx.moveCost goal current next)).costOf? v = some d' := by
    intro v d hd
    rw [costOf?_relabel]
    by_cases hv : next = v
    · subst hv
      exact ⟨_, Nat.le_of_lt (hlt d hd), if_pos rfl⟩
    · exact ⟨d, le_rfl, by rw [if_neg hv, hd]⟩
  constructor
  case start =>
    change (state.labels.insert next _)[s]? = _
    rw [lookup_insert, if_neg hmove.ne_start, h.start]
  case ordered => exact h.ordered.insert
  case nodup =>
    refine (Frontier.insert_perm _ _).nodup_iff.mpr (List.nodup_cons.mpr ⟨fun hmem => ?_, h.nodup⟩)
    obtain ⟨-, d, hd, hlabel⟩ := h.entry _ hmem
    exact absurd (hlt d hlabel) (Nat.not_lt.mpr hd)
  case entry =>
    intro e he
    rcases Frontier.mem_insert.mp he with rfl | he
    · exact ⟨Nat.le_add_right _ _, _, le_rfl, by rw [costOf?_relabel, if_pos rfl]⟩
    · obtain ⟨hfloor, d, hd, hlabel⟩ := h.entry e he
      obtain ⟨d', hd', hlabel'⟩ := hcheaper e.node d hlabel
      exact ⟨hfloor, d', le_trans hd' hd, hlabel'⟩
  case settled_le => exact fun u c hu => h.settled_le u c ((hsettled u c).mp hu)
  case parent =>
    intro v label hlabel hv
    change (state.labels.insert next _)[v]? = _ at hlabel
    rw [lookup_insert] at hlabel
    split at hlabel
    · next hnext =>
      subst hnext
      obtain rfl := Option.some.inj hlabel
      exact ⟨current, cost, rfl, (hsettled _ _).mpr hcurrent, hmove, rfl⟩
    · obtain ⟨u, c, hparent, hu, hmove', hcost⟩ := h.parent v label hlabel hv
      exact ⟨u, c, hparent, (hsettled u c).mpr hu, hmove', hcost⟩
  case relaxed =>
    intro u c v hu hmove'
    refine (h.relaxed u c v ((hsettled u c).mp hu) hmove').imp_right fun ⟨d, hd, hlabel⟩ => ?_
    obtain ⟨d', hd', hlabel'⟩ := hcheaper v d hlabel
    exact ⟨d', le_trans hd' hd, hlabel'⟩
  case goal_open => exact fun c hgoal => h.goal_open c ((hsettled goal c).mp hgoal)

/-- **Reaching a system keeps the invariant, settles nothing and unsettles
nothing**, and leaves the system with a label that costs no more than the move. -/
theorem reach (h : Sound ctx s goal cost waived state) (hcurrent : state.Settled current cost)
    (hmove : ctx.Move s goal current next) :
    let after := state.reach current next (cost + ctx.moveCost goal current next)
    Sound ctx s goal cost waived after ∧ (∀ u c, after.Settled u c ↔ state.Settled u c) ∧
      (∃ d ≤ cost + ctx.moveCost goal current next, after.costOf? next = some d) ∧
      after.frontier.length ≤ state.frontier.length + 1 := by
  intro after
  by_cases hlt : ∀ d, state.costOf? next = some d → cost + ctx.moveCost goal current next < d
  · rw [show after = _ from reach_of_lt hlt]
    refine ⟨h.relabel hcurrent hmove hlt, fun u c => settled_relabel ?_, ⟨_, le_rfl, ?_⟩, ?_⟩
    · exact h.not_settled_of_lt fun d hd => by have := hlt d hd; omega
    · rw [costOf?_relabel, if_pos rfl]
    · exact Nat.le_of_eq (Frontier.length_insert _ _)
  · push Not at hlt
    obtain ⟨d, hd, hle⟩ := hlt
    rw [show after = state from reach_of_le hd hle]
    exact ⟨h, fun _ _ => Iff.rfl, ⟨d, hle, hd⟩, Nat.le_succ _⟩

/-- **A visit keeps the invariant**, with one neighbour less to be looked at. -/
theorem visit {left : List SystemId}
    (h : Sound ctx s goal cost (leftOf current (next :: left)) state)
    (hcurrent : state.Settled current cost) (hnext : next ∈ ctx.snapshot.neighbours current) :
    let after := Search.visit ctx s goal current cost state next
    Sound ctx s goal cost (leftOf current left) after ∧
      (∀ u c, after.Settled u c ↔ state.Settled u c) ∧
      after.frontier.length ≤ state.frontier.length + 1 := by
  intro after
  rcases visit_cases ctx s goal current cost state hnext with ⟨hmove, heq⟩ | ⟨hmove, excl, heq⟩
  · rw [show after = _ from heq]
    obtain ⟨hsound, hsettled, hlabel, hlength⟩ := h.reach hcurrent hmove
    refine ⟨hsound.waive fun u c v hu hmove' hw => ?_, hsettled, hlength⟩
    obtain ⟨rfl, hv⟩ := hw
    rcases List.mem_cons.mp hv with rfl | hv
    · have hc : c = cost := by
        have := ((hsettled u c).mp hu).1
        rw [hcurrent.1] at this
        exact (Option.some.inj this).symm
      exact .inr (hc ▸ hlabel)
    · exact .inl ⟨rfl, hv⟩
  · rw [show after = _ from heq]
    refine ⟨(h.waive fun u c v hu hmove' hw => ?_).excluded excl, fun _ _ => Iff.rfl, Nat.le_succ _⟩
    obtain ⟨rfl, hv⟩ := hw
    rcases List.mem_cons.mp hv with rfl | hv
    · exact absurd hmove' hmove
    · exact .inl ⟨rfl, hv⟩

/-- **Looking at all neighbours keeps the invariant**, and nothing is waived any
more. -/
theorem expand
    (h : Sound ctx s goal cost (leftOf current (ctx.snapshot.neighbours current)) state)
    (hcurrent : state.Settled current cost) :
    let after := Search.expand ctx s goal current cost state
    Sound ctx s goal cost noWaiver after ∧ (∀ u c, after.Settled u c ↔ state.Settled u c) ∧
      after.frontier.length ≤ state.frontier.length + (ctx.snapshot.neighbours current).length := by
  suffices key : ∀ left : List SystemId, left ⊆ ctx.snapshot.neighbours current →
      ∀ state : Search, Sound ctx s goal cost (leftOf current left) state →
        state.Settled current cost →
        let after := left.foldl (Search.visit ctx s goal current cost) state
        Sound ctx s goal cost noWaiver after ∧ (∀ u c, after.Settled u c ↔ state.Settled u c) ∧
          after.frontier.length ≤ state.frontier.length + left.length from
    key _ (List.Subset.refl _) state h hcurrent
  -- moves to the neighbours that are left are waived until they are visited
  intro left
  induction left with
  | nil =>
    exact fun _ state h _ =>
      ⟨h.waive fun u c v _ _ hw => absurd hw.2 List.not_mem_nil, fun _ _ => Iff.rfl, le_rfl⟩
  | cons next left ih =>
    intro hsub state h hcurrent
    obtain ⟨hnext, hleft⟩ := List.cons_subset.mp hsub
    obtain ⟨hsound, hsettled, hlength⟩ := h.visit hcurrent hnext
    obtain ⟨hsound', hsettled', hlength'⟩ :=
      ih hleft _ hsound ((hsettled current cost).mpr hcurrent)
    refine ⟨hsound', fun u c => (hsettled' u c).trans (hsettled u c), ?_⟩
    rw [List.foldl_cons, List.length_cons]
    omega

/-! ## What a round keeps -/

/-- What is settled once the first entry has left the frontier: the system it
belongs to, if its label has that cost, and what was settled before. -/
theorem settled_tail {entry : FrontierEntry} {rest : Frontier}
    (h : Sound ctx s goal floor waived state) (hfrontier : state.frontier = entry :: rest) :
    ({ state with frontier := rest } : Search).Settled u c ↔
      state.Settled u c ∨ (state.costOf? u = some c ∧ entry = ⟨u, c⟩) := by
  have hnotin : entry ∉ rest := (List.nodup_cons.mp (hfrontier ▸ h.nodup)).1
  simp only [Settled, hfrontier, List.mem_cons, not_or]
  constructor
  · rintro ⟨hcost, hmem⟩
    by_cases he : entry = ⟨u, c⟩
    · exact .inr ⟨hcost, he⟩
    · exact .inl ⟨hcost, fun hu => he hu.symm, hmem⟩
  · rintro (⟨hcost, -, hmem⟩ | ⟨hcost, rfl⟩)
    · exact ⟨hcost, hmem⟩
    · exact ⟨hcost, hnotin⟩

/-- **Dropping an overtaken entry keeps the invariant**, settles nothing and
unsettles nothing. -/
theorem drop {entry : FrontierEntry} {rest : Frontier}
    (h : Sound ctx s goal floor waived state) (hfrontier : state.frontier = entry :: rest)
    (hcost : state.costOf? entry.node = some c) (hlt : c < entry.cost) :
    let after : Search := { state with frontier := rest }
    Sound ctx s goal floor waived after ∧ ∀ u c, after.Settled u c ↔ state.Settled u c := by
  intro after
  have hsettled : ∀ u c, after.Settled u c ↔ state.Settled u c := by
    refine fun u d => (h.settled_tail hfrontier).trans (or_iff_left ?_)
    rintro ⟨hd, rfl⟩
    rw [hcost] at hd
    exact absurd (Option.some.inj hd) (Nat.ne_of_lt hlt)
  have hrest : ∀ e ∈ rest, e ∈ state.frontier := fun e he => hfrontier ▸ List.mem_cons_of_mem _ he
  refine ⟨⟨h.start, (List.pairwise_cons.mp (hfrontier ▸ h.ordered)).2,
    (List.nodup_cons.mp (hfrontier ▸ h.nodup)).2, fun e he => h.entry e (hrest e he),
    fun u d hu => h.settled_le u d ((hsettled u d).mp hu), fun v label hlabel hv => ?_,
    fun u d v hu hmove => h.relaxed u d v ((hsettled u d).mp hu) hmove,
    fun d hd => h.goal_open d ((hsettled goal d).mp hd)⟩, hsettled⟩
  obtain ⟨u, d, hparent, hu, hmove, hd⟩ := h.parent v label hlabel hv
  exact ⟨u, d, hparent, (hsettled u d).mpr hu, hmove, hd⟩

/-- **Taking the first entry, when it counts, settles its system**: the floor rises
to its cost, and the moves out of it are yet to be looked at. -/
theorem settle {entry : FrontierEntry} {rest : Frontier}
    (h : Sound ctx s goal floor noWaiver state) (hfrontier : state.frontier = entry :: rest)
    (hcost : state.costOf? entry.node = some entry.cost) (hgoal : entry.node ≠ goal) :
    Sound ctx s goal entry.cost (leftOf entry.node (ctx.snapshot.neighbours entry.node))
      { state with frontier := rest } := by
  have hmem : entry ∈ state.frontier := hfrontier ▸ List.mem_cons_self
  obtain ⟨hbefore, hordered⟩ := List.pairwise_cons.mp (hfrontier ▸ h.ordered)
  constructor
  case start => exact h.start
  case ordered => exact hordered
  case nodup => exact (List.nodup_cons.mp (hfrontier ▸ h.nodup)).2
  case entry =>
    intro e he
    exact ⟨hbefore e he, (h.entry e (hfrontier ▸ List.mem_cons_of_mem _ he)).2⟩
  case settled_le =>
    intro u c hu
    rcases (h.settled_tail hfrontier).mp hu with hu | ⟨-, rfl⟩
    · exact le_trans (h.settled_le u c hu) (h.entry entry hmem).1
    · exact le_rfl
  case parent =>
    intro v label hlabel hv
    obtain ⟨u, c, hparent, hu, hmove, hc⟩ := h.parent v label hlabel hv
    exact ⟨u, c, hparent, (h.settled_tail hfrontier).mpr (.inl hu), hmove, hc⟩
  case relaxed =>
    intro u c v hu hmove
    rcases (h.settled_tail hfrontier).mp hu with hu | ⟨-, rfl⟩
    · exact (h.relaxed u c v hu hmove).elim False.elim .inr
    · exact .inl ⟨rfl, hmove.neighbour⟩
  case goal_open =>
    intro c hc
    rcases (h.settled_tail hfrontier).mp hc with hc | ⟨-, rfl⟩
    · exact h.goal_open c hc
    · exact hgoal rfl

/-- **Going on from the first entry, when it counts, keeps the invariant**, and settles its
system and no other. -/
theorem goOn {entry : FrontierEntry} {rest : Frontier}
    (h : Sound ctx s goal floor noWaiver state) (hfrontier : state.frontier = entry :: rest)
    (hcost : state.costOf? entry.node = some entry.cost) (hgoal : entry.node ≠ goal) :
    let after := Search.expand ctx s goal entry.node entry.cost { state with frontier := rest }
    Sound ctx s goal entry.cost noWaiver after ∧
      (∀ u c, after.Settled u c ↔ state.Settled u c ∨ entry = ⟨u, c⟩) ∧
      after.frontier.length ≤ rest.length + (ctx.snapshot.neighbours entry.node).length := by
  intro after
  obtain ⟨hsound, hsame, hgrowth⟩ := (h.settle hfrontier hcost hgoal).expand
    ((h.settled_tail hfrontier).mpr (.inr ⟨hcost, rfl⟩))
  refine ⟨hsound, fun u c => ?_, hgrowth⟩
  rw [hsame, h.settled_tail hfrontier]
  refine or_congr_right (and_iff_right_of_imp fun hentry => ?_)
  rwa [hentry] at hcost

end Sound

theorem labels_start (s v : SystemId) :
    (Search.start s).labels[v]? = if s = v then some ⟨0, none⟩ else none := by
  simp only [Search.start, lookup_insert]
  rfl

/-- A search starts out with nothing settled. -/
theorem not_settled_start (s u : SystemId) (c : Nat) : ¬ (Search.start s).Settled u c := by
  rintro ⟨hcost, hmem⟩
  rw [costOf?, labels_start] at hcost
  split at hcost
  · next hu =>
    obtain rfl : 0 = c := by simpa using hcost
    exact hmem (by simp [Search.start, hu])
  · cases hcost

/-- **A search starts out with the invariant.** -/
theorem sound_start (ctx : SearchContext) (s goal : SystemId) :
    Sound ctx s goal 0 noWaiver (Search.start s) := by
  constructor
  case start => rw [labels_start, if_pos rfl]
  case ordered => exact List.pairwise_singleton _ _
  case nodup => exact List.nodup_cons.mpr ⟨List.not_mem_nil, List.nodup_nil⟩
  case entry =>
    intro e he
    obtain rfl := List.mem_singleton.mp he
    exact ⟨le_rfl, 0, le_rfl, by rw [costOf?, labels_start, if_pos rfl]; rfl⟩
  case settled_le => exact fun u c hu => absurd hu (not_settled_start s u c)
  case parent =>
    intro v label hlabel hv
    rw [labels_start, if_neg (Ne.symm hv)] at hlabel
    cases hlabel
  case relaxed => exact fun u c v hu _ => absurd hu (not_settled_start s u c)
  case goal_open => exact not_settled_start s goal

end Search

end StarFreight
