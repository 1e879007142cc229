import StarFreight.Proofs.Planning.Judgement
import StarFreight.Proofs.Search.Walk
/-!
# Planning — walks are legal

A search tells the goal by its number, a judge by its position. On a walk the
two agree: the goal comes last and only there (`Trail.phase_eq`). So the
systems of a walk that starts where cargo may be loaded are legal
(`Walk.legal`), and all of them are in high security under the safest profile
(`Walk.allHighSec`).
-/

namespace StarFreight

/-- A system that a graph contains is one it has. -/
theorem Snapshot.isSome_system? {snapshot : Snapshot} {id : SystemId}
    (h : snapshot.contains id = true) : (snapshot.system? id).isSome = true := by
  rwa [← snapshot.contains_eq_isSome]

namespace SearchContext

variable {ctx : SearchContext} {s goal u v : SystemId} {path : List SystemId}
  {systems : List StarSystem} {next first : StarSystem} {phase : Phase} {i : Nat}

/-! ## Positions on a walk -/

/-- What is entered as the goal is what comes last, if the goal comes last and only
there. -/
theorem phaseTowards_eq (hlast : path.getLast? = some goal) (hgoal : goal ∉ path.dropLast)
    {b : SystemId} (hb : path[i + 1]? = some b) :
    phaseTowards goal b = pathPhase (i + 1) (path.length - 1) := by
  obtain ⟨hi, rfl⟩ := List.getElem?_eq_some_iff.mp hb
  have hentered : path[i + 1] = goal ↔ i + 1 = path.length - 1 := by
    constructor
    · intro heq
      by_contra hne
      -- the goal would come before the end
      refine hgoal (List.mem_of_getElem? (i := i + 1) ?_)
      rw [List.getElem?_dropLast, if_pos (by omega), hb, heq]
    · intro heq
      rw [List.getLast?_eq_getElem?, ← heq, hb] at hlast
      exact Option.some.inj hlast
  simp only [phaseTowards, pathPhase, hentered, Nat.add_one_ne_zero, if_false]

/-- **On a walk, what is entered as the goal is what comes last.** -/
theorem Walk.phase_eq (h : ctx.Walk s goal path) {b : SystemId} (hb : path[i + 1]? = some b) :
    phaseTowards goal b = pathPhase (i + 1) (path.length - 1) :=
  phaseTowards_eq h.last h.goal_last hb

/-- A walk from a known system visits known systems only. -/
theorem Trail.isSome_system? (h : ctx.Trail s goal v path)
    (hs : (ctx.snapshot.system? s).isSome = true) :
    ∀ id ∈ path, (ctx.snapshot.system? id).isSome = true := by
  intro id hid
  by_cases hne : id = s
  · exact hne ▸ hs
  · obtain ⟨_, hmove⟩ := h.exists_move hid hne
    obtain ⟨target, htarget, -⟩ := hmove.admitted
    rw [htarget]
    rfl

/-! ## Systems on a walk -/

/-- The systems that a graph has under numbers it knows. -/
theorem forall₂_filterMap_system? (snapshot : Snapshot)
    (h : ∀ id ∈ path, (snapshot.system? id).isSome = true) :
    List.Forall₂ (fun id s => snapshot.system? id = some s) path
      (path.filterMap snapshot.system?) :=
  forall₂_filterMap h

/-- A system at a position stands for the number there. -/
theorem getElem?_of_known {snapshot : Snapshot}
    (h : List.Forall₂ (fun id s => snapshot.system? id = some s) path systems) {a : StarSystem}
    (ha : systems[i]? = some a) : path[i]? = some a.id ∧ snapshot.system? a.id = some a := by
  obtain ⟨hi, rfl⟩ := List.getElem?_eq_some_iff.mp ha
  have hlt : i < path.length := h.length_eq ▸ hi
  have hsystem : snapshot.system? path[i] = some systems[i] := h.get hlt hi
  have hid := snapshot.graph.keyed _ _ hsystem
  exact ⟨by rw [hid]; exact List.getElem?_eq_getElem hlt, by rw [hid]; exact hsystem⟩

/-- Systems that stand for numbers have these numbers. -/
theorem ids_of_known {snapshot : Snapshot}
    (h : List.Forall₂ (fun id s => snapshot.system? id = some s) path systems) :
    systems.map (·.id) = path := by
  induction h with
  | nil => rfl
  | cons hs _ ih => rw [List.map_cons, ih, snapshot.graph.keyed _ _ hs]

/-- **Every system of a walk is admitted in its phase**, coming from the one before
it. -/
theorem Walk.admits (h : ctx.Walk s goal path)
    (hknown : List.Forall₂ (fun id s => ctx.snapshot.system? id = some s) path systems)
    {a b : StarSystem} (ha : systems[i]? = some a) (hb : systems[i + 1]? = some b) :
    ctx.admits a.id b (pathPhase (i + 1) (systems.length - 1)) = true := by
  obtain ⟨ha', -⟩ := getElem?_of_known hknown ha
  obtain ⟨hb', hsystem⟩ := getElem?_of_known hknown hb
  obtain ⟨target, htarget, hadmits⟩ := (h.move ha' hb').admitted
  obtain rfl : b = target := Option.some.inj (hsystem.symm.trans htarget)
  rwa [Walk.phase_eq h hb', hknown.length_eq] at hadmits

/-- A system that is not the first has one before it. -/
theorem exists_getElem?_of_succ {b : StarSystem} (hb : systems[i + 1]? = some b) :
    ∃ a, systems[i]? = some a := by
  obtain ⟨hi, -⟩ := List.getElem?_eq_some_iff.mp hb
  exact ⟨systems[i], List.getElem?_eq_getElem (by omega)⟩

/-- **The systems of a walk are legal** when cargo may be loaded at the first. -/
theorem Walk.legal (h : ctx.Walk s goal path)
    (hknown : List.Forall₂ (fun id s => ctx.snapshot.system? id = some s) path systems)
    (hfirst : systems[0]? = some first) (hallowed : ctx.policy.allows first .pickup = true)
    (hfree : ctx.rules.blocks first .pickup = false) : Legal ctx systems where
  allowed i a ha := by
    cases i with
    | zero =>
      obtain rfl : first = a := Option.some.inj (hfirst.symm.trans ha)
      exact hallowed
    | succ i =>
      obtain ⟨before, hbefore⟩ := exists_getElem?_of_succ ha
      exact (admits_iff.mp (Walk.admits h hknown hbefore ha)).1
  free i a ha := by
    cases i with
    | zero =>
      obtain rfl : first = a := Option.some.inj (hfirst.symm.trans ha)
      exact hfree
    | succ i =>
      obtain ⟨before, hbefore⟩ := exists_getElem?_of_succ ha
      exact (admits_iff.mp (Walk.admits h hknown hbefore ha)).2.2.1
  unobstructed i a b ha hb := (admits_iff.mp (Walk.admits h hknown ha hb)).2.2.2

/-- **The systems of a walk are all in high security** under the safest profile, when
the first is. -/
theorem Walk.allHighSec (h : ctx.Walk s goal path)
    (hknown : List.Forall₂ (fun id s => ctx.snapshot.system? id = some s) path systems)
    (hfirst : systems[0]? = some first) (hsafest : ctx.profile = .safest)
    (hclass : ctx.policy.classify first = .highsec) : AllHighSec ctx.policy systems := by
  intro a ha
  obtain ⟨i, hi⟩ := List.getElem?_of_mem ha
  cases i with
  | zero =>
    obtain rfl : first = a := Option.some.inj (hfirst.symm.trans hi)
    exact hclass
  | succ i =>
    obtain ⟨before, hbefore⟩ := exists_getElem?_of_succ hi
    exact (admits_iff.mp (Walk.admits h hknown hbefore hi)).2.1 hsafest

end SearchContext

end StarFreight
