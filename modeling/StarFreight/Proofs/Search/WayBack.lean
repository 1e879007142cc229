import StarFreight.Proofs.Search.Simple
/-!
# Search — the way back

A route is read off the labels of a search backwards, from the goal to the system
it was reached from and on to the start. Nothing in the labels by themselves keeps
this from running in a circle or from breaking off. It does neither in a search that
is sound, because each label was reached from a cheaper one (`Sound.exists_leadsBack`):
there is one way back from every system that was reached (`LeadsBack.unique`), and
it is the one that is read off (`LeadsBack.trace_eq`).
-/

namespace StarFreight

namespace Search

variable {ctx : SearchContext} {s goal u v : SystemId} {floor c steps : Nat} {state : Search}
  {labels : Std.TreeMap SystemId Label} {path other : List SystemId}

/-- The way back from a system to the start, from label to label; the systems on it
in the order of the way there. -/
inductive LeadsBack (labels : Std.TreeMap SystemId Label) (s : SystemId) :
    SystemId → List SystemId → Prop
  /-- At the start it is over. -/
  | start : LeadsBack labels s s [s]
  /-- Anywhere else there is a label, and the label says where it goes on. -/
  | parent {v u : SystemId} {label : Label} {path : List SystemId} (hv : v ≠ s)
      (hlabel : labels[v]? = some label) (hparent : label.parent = some u)
      (hpath : LeadsBack labels s u path) : LeadsBack labels s v (path ++ [v])

/-- **There is one way back at most.** -/
theorem LeadsBack.unique (h : LeadsBack labels s v path) (hother : LeadsBack labels s v other) :
    path = other := by
  induction h generalizing other with
  | start =>
    cases hother with
    | start => rfl
    | parent hv => exact absurd rfl hv
  | parent hv hlabel hparent _ ih =>
    cases hother with
    | start => exact absurd rfl hv
    | parent _ hlabel' hparent' hpath' =>
      obtain rfl := Option.some.inj (hlabel.symm.trans hlabel')
      obtain rfl := Option.some.inj (hparent.symm.trans hparent')
      rw [ih hpath']

/-- **The way back is what is read off the labels**, in enough steps. -/
theorem LeadsBack.trace_eq (h : LeadsBack labels s v path)
    (hstart : labels[s]? = some ⟨0, none⟩) (hsteps : path.length ≤ steps + 1)
    (behind : List SystemId) : trace labels steps v behind = path ++ behind := by
  induction h generalizing steps behind with
  | start =>
    rw [trace, hstart]
    cases steps <;> rfl
  | @parent v u label path hv hlabel hparent hpath ih =>
    -- there is a system before this one, so one step is left to go to it
    have hpos : 0 < path.length := by
      cases hpath <;> simp
    rw [List.length_append, List.length_singleton] at hsteps
    obtain ⟨steps, rfl⟩ : ∃ n, steps = n + 1 := Nat.exists_eq_add_one.mpr (by omega)
    rw [trace, hlabel]
    simp only [hparent]
    rw [ih (by omega), List.append_assoc, List.singleton_append]

/-- **From every system that was reached a way leads back**, over no more systems than
the label costs: each label on it is cheaper than the one before. -/
theorem Sound.exists_leadsBack (h : Sound ctx s goal floor noWaiver state)
    (hcost : state.costOf? v = some c) :
    ∃ path, LeadsBack state.labels s v path ∧ path.length ≤ c + 1 := by
  induction c using Nat.strong_induction_on generalizing v with
  | _ c ih =>
    by_cases hv : v = s
    · subst hv
      exact ⟨[v], .start, Nat.le_add_left _ _⟩
    · obtain ⟨label, hlabel, rfl⟩ := Option.map_eq_some_iff.mp hcost
      obtain ⟨u, d, hparent, hsettled, hmove, hsum⟩ := h.parent v label hlabel hv
      have hpos := hmove.cost_pos
      obtain ⟨path, hpath, hlength⟩ := ih d (by omega) hsettled.1
      refine ⟨path ++ [v], .parent hv hlabel hparent hpath, ?_⟩
      rw [List.length_append, List.length_singleton]
      omega

end Search

namespace SearchContext

variable {ctx : SearchContext} {s goal : SystemId} {found : RouteFound}

/-- **A search that finds a route ends with labels that lead back along it.** -/
theorem exists_leadsBack_of_findRoute (hne : s ≠ goal) (h : ctx.findRoute s goal = some found) :
    ∃ last, Search.run ctx s goal ctx.rounds (Search.start s) = some (found.cost, last) ∧
      Search.LeadsBack last.labels s goal found.path := by
  obtain ⟨last, floor, hsound, hend⟩ :=
    Search.run_cases (Search.sound_start ctx s goal) (Search.budget_start_lt ctx s)
  rcases hend with ⟨-, hrun⟩ | ⟨cost, rest, -, hcost, hrun⟩
  · rw [findRoute, if_neg hne, hrun] at h
    cases h
  · rw [findRoute, if_neg hne, hrun] at h
    obtain rfl := Option.some.inj h
    obtain ⟨path, hpath, hlength⟩ := hsound.exists_leadsBack hcost
    have htrace := hpath.trace_eq hsound.start hlength []
    rw [List.append_nil] at htrace
    refine ⟨_, hrun, ?_⟩
    simpa only [htrace] using hpath

/-- **The route found is simple and read off whole**: it runs from the start to the goal,
from neighbour to neighbour, through known systems and through none twice; and there is
one way back from the goal over the labels of the search, which is this route. -/
theorem findRoute_retraced (h : ctx.findRoute s goal = some found) :
    found.path.head? = some s ∧ found.path.getLast? = some goal ∧ found.path.Nodup ∧
      found.path.IsChain (fun u v => v ∈ ctx.snapshot.neighbours u) ∧
      (∀ v ∈ found.path.tail, ctx.snapshot.contains v = true) ∧
      (s ≠ goal → ∃ last,
        Search.run ctx s goal ctx.rounds (Search.start s) = some (found.cost, last) ∧
          ∀ path, Search.LeadsBack last.labels s goal path ↔ path = found.path) := by
  have hwalk := walk_of_findRoute h
  refine ⟨hwalk.head, hwalk.last, nodup_of_findRoute h, hwalk.moves.imp fun _ _ => Move.neighbour,
    fun v hv => ?_, fun hne => ?_⟩
  · -- a system that is not the first was entered by a move
    obtain ⟨i, hi⟩ := List.getElem?_of_mem hv
    rw [List.getElem?_tail] at hi
    obtain ⟨hlt, rfl⟩ := List.getElem?_eq_some_iff.mp hi
    have hmove := List.isChain_iff_getElem.mp hwalk.moves i hlt
    obtain ⟨target, htarget, -⟩ := hmove.admitted
    rw [Snapshot.contains_eq_isSome, htarget]
    rfl
  · obtain ⟨last, hrun, hback⟩ := exists_leadsBack_of_findRoute hne h
    refine ⟨last, hrun, fun path => ⟨fun hpath => hpath.unique hback, ?_⟩⟩
    rintro rfl
    exact hback

/-- Through low security, where the search comes last although it is the shorter way. -/
theorem findRoute_retraced_diamond :
    diamond.findRoute 1 4 = some ⟨[1, 5, 4], 4, 0⟩ ∧ ([1, 5, 4] : List SystemId).Nodup ∧
      ∃ last, Search.run diamond 1 4 diamond.rounds (Search.start 1) = some (4, last) ∧
        ∀ path, Search.LeadsBack last.labels 1 4 path ↔ path = [1, 5, 4] := by
  have h : diamond.findRoute 1 4 = some ⟨[1, 5, 4], 4, 0⟩ := by decide +kernel
  obtain ⟨-, -, hnodup, -, -, hback⟩ := findRoute_retraced h
  exact ⟨h, hnodup, hback (by decide)⟩

end SearchContext

end StarFreight
