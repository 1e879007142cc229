import StarFreight.Planning.OraclePath
import StarFreight.Proofs.Store.Lookup
/-!
# Planning — what a judge of paths accepts

The judge looks at the systems of a path one after another and stops at the
first fault. What it lets pass is said here by position: no system on the path
is refused or forbidden in its phase, and no connection is forbidden in the
phase of the system entered (`Legal`). A judge accepts a path exactly when it
runs between the ends, moves at every step, visits known systems and is legal
(`validate_eq_ok_iff`).
-/

namespace StarFreight

/-- Systems on a path that policy and hard rules keep from none of them in its
phase. -/
structure Legal (ctx : SearchContext) (systems : List StarSystem) : Prop where
  allowed : ∀ i s, systems[i]? = some s →
    ctx.policy.allows s (pathPhase i (systems.length - 1)) = true
  free : ∀ i s, systems[i]? = some s →
    ctx.rules.blocks s (pathPhase i (systems.length - 1)) = false
  /-- No hard rule forbids a connection in the phase of the system entered. -/
  unobstructed : ∀ i a b, systems[i]? = some a → systems[i + 1]? = some b →
    ctx.rules.blocksLink a.id b.id (pathPhase (i + 1) (systems.length - 1)) = false

/-- Systems that are all in high security. -/
def AllHighSec (policy : Policy) (systems : List StarSystem) : Prop :=
  ∀ s ∈ systems, policy.classify s = .highsec

namespace PathJudge

variable {judge : PathJudge} {needHighSec : Bool} {last index : Nat} {source : Option StarSystem}
  {s : StarSystem} {systems : List StarSystem} {phase : Phase} {origin destination : SystemId}
  {path : List SystemId}

@[simp] theorem inHighSec_iff : judge.inHighSec s = true ↔
    judge.context.policy.classify s = .highsec := by
  simp [inHighSec]

/-- The judge sees nothing wrong with entering a system. -/
theorem stepFault?_eq_none_iff : judge.stepFault? needHighSec source s phase = none ↔
    judge.context.policy.allows s phase = true ∧
      (needHighSec = true → judge.context.policy.classify s = .highsec) ∧
      judge.context.rules.blocks s phase = false ∧
      ∀ before, source = some before →
        judge.context.rules.blocksLink before.id s.id phase = false := by
  unfold stepFault? RuleSet.blocks
  cases judge.context.policy.allows s phase with
  | false => simp
  | true =>
    -- the class comes before the rules, and the rules before the connection
    by_cases hhigh : needHighSec = true ∧ judge.inHighSec s = false
    · have hclass := inHighSec_iff.not.mp (Bool.eq_false_iff.mp hhigh.2)
      simp [hhigh, hclass]
    · have hclass : needHighSec = true → judge.context.policy.classify s = .highsec := fun hneed =>
        inHighSec_iff.mp (Bool.not_eq_false _ ▸ fun hs => hhigh ⟨hneed, hs⟩)
      have hpass : (needHighSec && !judge.inHighSec s) = false := by
        simpa using hhigh
      cases judge.context.rules.hardBlock? s phase with
      | some rule => simp [hpass]
      | none =>
        cases source with
        | none => simpa [hpass] using hclass
        | some before => simpa [hpass] using fun _ => hclass

/-- The system before the `i`-th of those still to come. -/
def prior (source : Option StarSystem) (systems : List StarSystem) : Nat → Option StarSystem
  | 0 => source
  | i + 1 => systems[i]?

/-- After the first of them, it is the one before the next. -/
theorem prior_succ (i : Nat) :
    prior source (s :: systems) (i + 1) = prior (some s) systems i := by
  cases i <;> rfl

/-- **The judge finds no fault exactly when no step has one.** -/
theorem firstFault?_eq_none_iff :
    judge.firstFault? needHighSec last index source systems = none ↔
      ∀ i s, systems[i]? = some s →
        judge.stepFault? needHighSec (prior source systems i) s (pathPhase (index + i) last) =
          none := by
  induction systems generalizing index source with
  | nil => simp [firstFault?]
  | cons s systems ih =>
    unfold firstFault?
    constructor
    · intro h
      split at h
      · cases h
      · next hstep =>
        -- what is first here is at `index`, and the rest one further
        intro i t hi
        cases i with
        | zero =>
          obtain rfl := Option.some.inj hi
          exact hstep
        | succ i =>
          rw [prior_succ, ← Nat.succ_add_eq_add_succ]
          exact ih.mp h i t hi
    · intro h
      have hstep : judge.stepFault? needHighSec source s (pathPhase index last) = none := h 0 s rfl
      rw [hstep]
      refine ih.mpr fun i t hi => ?_
      have hnext := h (i + 1) t hi
      rwa [prior_succ, ← Nat.succ_add_eq_add_succ] at hnext

/-- A path without a fault is legal, and keeps to high security if it has to. -/
theorem firstFault?_path_eq_none_iff :
    judge.firstFault? needHighSec (systems.length - 1) 0 none systems = none ↔
      Legal judge.context systems ∧
        (needHighSec = true → AllHighSec judge.context.policy systems) := by
  simp only [firstFault?_eq_none_iff, stepFault?_eq_none_iff, Nat.zero_add]
  constructor
  · intro h
    refine ⟨⟨fun i s hi => (h i s hi).1, fun i s hi => (h i s hi).2.2.1, ?_⟩, ?_⟩
    · exact fun i a b ha hb => (h (i + 1) b hb).2.2.2 a ha
    · intro hneed s hs
      obtain ⟨i, hi⟩ := List.getElem?_of_mem hs
      exact (h i s hi).2.1 hneed
  · rintro ⟨hlegal, hhigh⟩ i s hi
    refine ⟨hlegal.allowed i s hi, fun hneed => hhigh hneed s (List.mem_of_getElem? hi),
      hlegal.free i s hi, fun before hbefore => ?_⟩
    cases i with
    | zero => cases hbefore
    | succ i => exact hlegal.unobstructed i before s hbefore hi

/-- Judges that see the same in every step see the same in a path. -/
theorem firstFault?_congr {other : PathJudge} (hstep : other.stepFault? = judge.stepFault?) :
    other.firstFault? = judge.firstFault? := by
  funext needHighSec last index source systems
  induction systems generalizing index source with
  | nil => rfl
  | cons s systems ih => simp only [firstFault?, hstep, ih]

/-- And they judge alike if they know the same systems. -/
theorem validate_congr {other : PathJudge} (hsystems : other.systemsOf = judge.systemsOf)
    (hneeds : other.needsHighSec = judge.needsHighSec)
    (hstep : other.stepFault? = judge.stepFault?) : other.validate = judge.validate := by
  funext origin destination path
  simp only [validate, hsystems, hneeds, firstFault?_congr hstep]

/-- A path that never stays where it is moves at every step. -/
theorem staysPut_eq_false_iff : staysPut path = false ↔ path.IsChain (· ≠ ·) := by
  induction path with
  | nil => simp [staysPut]
  | cons a path ih =>
    cases path with
    | nil => simp [staysPut]
    | cons b path =>
      rw [staysPut, Bool.or_eq_false_iff, ih, List.isChain_cons_cons, beq_eq_false_iff_ne]

/-- The systems of a path are those known under its numbers. -/
theorem systemsOf_eq_ok_iff : judge.systemsOf path = .ok systems ↔
    List.Forall₂ (fun id s =>
      judge.database.knownSystem? judge.context.snapshot id = .ok (some s)) path systems := by
  unfold systemsOf
  rw [mapM_eq_ok]
  constructor
  · intro h
    refine h.imp fun id s hs => ?_
    exact (demand_eq_ok (fun _ => rfl) nofun).mp hs
  · intro h
    refine h.imp fun id s hs => ?_
    exact (demand_eq_ok (fun _ => rfl) nofun).mpr hs

/-- What a judge asks of a path between two ends, and of its systems. -/
structure Accepts (judge : PathJudge) (origin destination : SystemId) (path : List SystemId)
    (systems : List StarSystem) : Prop where
  head : path.head? = some origin
  last : path.getLast? = some destination
  moves : path.IsChain (· ≠ ·)
  known : List.Forall₂ (fun id s =>
    judge.database.knownSystem? judge.context.snapshot id = .ok (some s)) path systems
  legal : Legal judge.context systems
  /-- It keeps to high security if the profile is the safest or both ends do. -/
  highsec : ∀ a b, systems.head? = some a → systems.getLast? = some b →
    judge.needsHighSec a b = true → AllHighSec judge.context.policy systems

/-- **A judge accepts exactly the paths that meet what it asks.** -/
theorem validate_eq_ok_iff : judge.validate origin destination path = .ok systems ↔
    judge.Accepts origin destination path systems := by
  constructor
  · intro h
    unfold validate at h
    split at h
    · next first last hfirst hlast =>
      split_ifs at h with hends hstays
      obtain ⟨rfl, rfl⟩ : first = origin ∧ last = destination := by
        simpa [not_or] using hends
      obtain ⟨found, hfound, h⟩ := bind_eq_ok.mp h
      have hknown := systemsOf_eq_ok_iff.mp hfound
      have hmoves := staysPut_eq_false_iff.mp (Bool.eq_false_iff.mpr hstays)
      split at h
      · next a b ha hb =>
        split at h
        · cases h
        · next hfault =>
          obtain rfl := pure_eq_ok.mp h
          obtain ⟨hlegal, hhigh⟩ := firstFault?_path_eq_none_iff.mp hfault
          refine ⟨hfirst, hlast, hmoves, hknown, hlegal, fun a' b' ha' hb' => ?_⟩
          obtain rfl := Option.some.inj (ha.symm.trans ha')
          obtain rfl := Option.some.inj (hb.symm.trans hb')
          exact hhigh
      · next hnone =>
        -- a path with a first number has a first and a last system
        cases hknown with
        | nil => cases hfirst
        | cons _ _ =>
          exact absurd (List.getLast?_eq_some_getLast (List.cons_ne_nil _ _)) (hnone _ _ rfl)
    · cases h
  · intro h
    unfold validate
    rw [h.head, h.last]
    simp only [ne_eq, not_true_eq_false, or_self, if_false, staysPut_eq_false_iff.mpr h.moves,
      Bool.false_eq_true]
    refine bind_eq_ok.mpr ⟨systems, systemsOf_eq_ok_iff.mpr h.known, ?_⟩
    split
    · next a b ha hb =>
      rw [firstFault?_path_eq_none_iff.mpr ⟨h.legal, h.highsec a b ha hb⟩]
      rfl
    · rfl

end PathJudge

end StarFreight
