import Mathlib.Data.Sym.Sym2
import StarFreight.Proofs.Avoidance.Buckets
/-!
# Avoidance — the scan of a list

A set of rules answers from buckets. This file says which pass over the list of rules
gives the same answer, to every question that is asked of a set (`RuleSet.Scans`): hard
and soft rules are told apart, numbers of systems, constellations and regions do not mix,
a connection is the same from either end, and what is found has the order of the list.
-/

namespace StarFreight

/-- Whether rules of a scope are about the connection between two systems, whichever comes
first in either. -/
def RuleScope.Connects (scope : RuleScope) (a b : SystemId) : Prop :=
  ∃ c d, scope = .edge (Link.between c d) ∧ s(c, d) = s(a, b)

namespace RuleScope

variable {scope : RuleScope} {a b : SystemId}

theorem joins_iff_connects : scope.Joins a b ↔ scope.Connects a b := by
  constructor
  · exact fun h => ⟨a, b, h, rfl⟩
  · rintro ⟨c, d, rfl, hends⟩
    exact congrArg RuleScope.edge (Link.between_eq_iff.mpr (Sym2.eq_iff.mp hends))

theorem connects_comm : scope.Connects a b ↔ scope.Connects b a := by
  simp only [Connects, Sym2.eq_swap (a := a)]

instance : Decidable (scope.Connects a b) :=
  decidable_of_iff (scope = .edge (Link.between a b)) joins_iff_connects

end RuleScope

/-- The hard or the soft rules of a list that are about something and apply in a phase. -/
def scanRules (rules : List AvoidRule) (hard : Bool) (phase : Phase) (about : RuleScope → Prop)
    [DecidablePred about] : List AvoidRule :=
  rules.filter fun rule =>
    rule.hard == hard && rule.applies.applies phase && decide (about rule.scope)

variable {rules : List AvoidRule} {hard : Bool} {phase : Phase} {s : StarSystem} {a b : SystemId}

/-- The rules of a bucket that apply are found by a pass over the list. -/
theorem filter_bucket_ofList (rules : List AvoidRule) (hard : Bool) (phase : Phase)
    (scope : RuleScope) :
    ((RuleIndex.ofList (rules.filter (·.hard == hard))).bucket scope).filter
      (·.applies.applies phase) = scanRules rules hard phase (· = scope) := by
  rw [RuleIndex.bucket_ofList, List.filter_filter, List.filter_filter, scanRules]
  refine List.filter_congr fun rule _ => ?_
  ac_rfl

/-- Passes agree when what they look for does. -/
theorem scanRules_congr {about about' : RuleScope → Prop} [DecidablePred about]
    [DecidablePred about'] (h : ∀ scope, about scope ↔ about' scope) :
    scanRules rules hard phase about = scanRules rules hard phase about' := by
  simp only [scanRules, h]

namespace RuleSet

theorem hard_ofList : (ofList rules).hard = .ofList (rules.filter (·.hard == true)) := by
  simp [ofList]

theorem soft_ofList : (ofList rules).soft = .ofList (rules.filter (·.hard == false)) := by
  simp [ofList]

/-- The first hard rule that applies is looked for thrice: on the system, on its
constellation and on its region. -/
theorem hardBlock?_ofList : (ofList rules).hardBlock? s phase =
    ((scanRules rules true phase (· = .system s.id)).head?.or
      (scanRules rules true phase (· = .constellation s.constellation)).head?).or
      (scanRules rules true phase (· = .region s.region)).head? := by
  simp only [hardBlock?, hard_ofList, RuleIndex.forSystem_eq, ← List.head?_filter,
    List.filter_append, filter_bucket_ofList, List.head?_append]

theorem softHits_ofList {source : SystemId} {target : StarSystem} :
    (ofList rules).softHits source target phase =
      scanRules rules false phase (· = .system target.id) ++
        scanRules rules false phase (· = .constellation target.constellation) ++
        scanRules rules false phase (· = .region target.region) ++
        scanRules rules false phase (·.Connects source target.id) := by
  have hlink : scanRules rules false phase (· = .edge (Link.between source target.id)) =
      scanRules rules false phase (·.Connects source target.id) :=
    scanRules_congr fun _ => RuleScope.joins_iff_connects
  simp only [softHits, soft_ofList, RuleIndex.forSystem_eq, RuleIndex.forLink_eq,
    List.filter_append, filter_bucket_ofList, hlink]

/-- A set of rules that answers as a pass over a list does. -/
structure Scans (set : RuleSet) (rules : List AvoidRule) : Prop where
  hardCount : set.hardCount = rules.countP (·.hard)
  softCount : set.softCount = rules.countP (!·.hard)
  count : set.hardCount + set.softCount = rules.length
  /-- A rule on the system comes before one on its constellation, and that before one on
  its region. -/
  hardBlock? : ∀ s phase, set.hardBlock? s phase =
    ((scanRules rules true phase (· = .system s.id)).head?.or
      (scanRules rules true phase (· = .constellation s.constellation)).head?).or
      (scanRules rules true phase (· = .region s.region)).head?
  /-- Nothing is found only where there is nothing. -/
  hardBlock?_none : ∀ s phase, set.hardBlock? s phase = none ↔
    ∀ rule ∈ rules, rule.hard = true → rule.applies.applies phase = true → ¬ rule.scope.Covers s
  blocksLink : ∀ a b phase, set.blocksLink a b phase = true ↔ ∃ rule ∈ rules,
    rule.hard = true ∧ rule.applies.applies phase = true ∧ rule.scope.Connects a b
  blocksLink_comm : ∀ a b phase, set.blocksLink a b phase = set.blocksLink b a phase
  softHits : ∀ source target phase, set.softHits source target phase =
    scanRules rules false phase (· = .system target.id) ++
      scanRules rules false phase (· = .constellation target.constellation) ++
      scanRules rules false phase (· = .region target.region) ++
      scanRules rules false phase (·.Connects source target.id)
  penalty : ∀ source target phase, set.penalty source target phase =
    3 * ((set.softHits source target phase).map (·.severity)).sum

/-- A set that has the soft rules of another, and no others. -/
structure Softens (set without : RuleSet) : Prop where
  hardCount : without.hardCount = 0
  hardBlock? : ∀ s phase, without.hardBlock? s phase = none
  blocksLink : ∀ a b phase, without.blocksLink a b phase = false
  softCount : without.softCount = set.softCount
  softHits : ∀ source target phase,
    without.softHits source target phase = set.softHits source target phase
  penalty : ∀ source target phase,
    without.penalty source target phase = set.penalty source target phase

theorem softens_withoutHard (set : RuleSet) : set.Softens set.withoutHard where
  hardCount := rfl
  hardBlock? _ _ := rfl
  blocksLink _ _ _ := rfl
  softCount := rfl
  softHits _ _ _ := rfl
  penalty _ _ _ := rfl

/-- **Buckets answer as the list does**, and without its hard rules a set keeps the answers
of its soft ones. -/
theorem ofList_scans (rules : List AvoidRule) :
    (ofList rules).Scans rules ∧ (ofList rules).Softens (ofList rules).withoutHard := by
  have hlinks : ∀ a b phase, (ofList rules).blocksLink a b phase = true ↔ ∃ rule ∈ rules,
      rule.hard = true ∧ rule.applies.applies phase = true ∧ rule.scope.Connects a b := by
    intro a b phase
    simp only [blocksLink_ofList, RuleScope.joins_iff_connects]
  refine ⟨?_, softens_withoutHard _⟩
  constructor
  case hardCount => simp [RuleSet.hardCount, ofList, List.countP_eq_length_filter]
  case softCount => simp [RuleSet.softCount, ofList, List.countP_eq_length_filter]
  case count => exact hardCount_add_softCount_ofList rules
  case hardBlock? => exact fun s phase => hardBlock?_ofList
  case hardBlock?_none =>
    intro s phase
    have hblocks : (ofList rules).hardBlock? s phase = none ↔
        ¬ (ofList rules).blocks s phase = true := by
      simp [blocks]
    rw [hblocks, blocks_ofList]
    constructor
    · intro h rule hrule hhard happlies hcovers
      exact h ⟨rule, hrule, hhard, happlies, hcovers⟩
    · rintro h ⟨rule, hrule, hhard, happlies, hcovers⟩
      exact h rule hrule hhard happlies hcovers
  case blocksLink => exact hlinks
  case blocksLink_comm =>
    intro a b phase
    rw [Bool.eq_iff_iff, hlinks, hlinks]
    simp only [RuleScope.connects_comm (a := a)]
  case softHits => exact fun source target phase => softHits_ofList
  case penalty => exact fun source target phase => penalty_eq _ source target phase

end RuleSet

end StarFreight
