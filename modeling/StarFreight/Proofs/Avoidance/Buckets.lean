import Mathlib.Algebra.BigOperators.Ring.List
import Mathlib.Algebra.Order.BigOperators.Group.List
import Mathlib.Algebra.Order.Ring.Nat
import Mathlib.Data.List.Perm.Subperm
import StarFreight.Avoidance.RuleSet
/-!
# Avoidance — what the buckets hold

Rules are looked up by bucket; this file says what that finds in terms of the
list of rules they were sorted from. The bucket of a scope holds the rules of
that scope, in the order of the list (`bucket_ofList`); so a hard rule stands in
the way of a system or a connection exactly when the list has one that covers
or joins it and applies in the phase (`blocks_ofList`, `blocksLink_ofList`). Rules
that are among others, in any order, forbid no more than these and cost no more
(`blocks_of_subset`, `penalty_le_of_subperm`).
-/

namespace StarFreight

/-- Whether rules of a scope are about a system. -/
def RuleScope.Covers (scope : RuleScope) (s : StarSystem) : Prop :=
  scope = .system s.id ∨ scope = .constellation s.constellation ∨ scope = .region s.region

/-- Whether rules of a scope are about the connection between two systems. -/
def RuleScope.Joins (scope : RuleScope) (a b : SystemId) : Prop :=
  scope = .edge (Link.between a b)

namespace RuleIndex

variable {index : RuleIndex} {rules : List AvoidRule} {rule : AvoidRule} {scope : RuleScope}

/-- The bucket of a scope. -/
def bucket (index : RuleIndex) : RuleScope → List AvoidRule
  | .system id => index.systems.getD id []
  | .constellation id => index.constellations.getD id []
  | .region id => index.regions.getD id []
  | .edge link => (index.edges.getD link.low {}).getD link.high []

/-- The rules on a system stand in three buckets. -/
theorem forSystem_eq (s : StarSystem) : index.forSystem s = index.bucket (.system s.id) ++
    index.bucket (.constellation s.constellation) ++ index.bucket (.region s.region) :=
  rfl

theorem forLink_eq (a b : SystemId) :
    index.forLink a b = index.bucket (.edge (Link.between a b)) :=
  rfl

theorem getD_consBucket (buckets : Std.TreeMap Int (List AvoidRule)) (key k : Int) :
    (consBucket buckets key rule).getD k [] =
      if key = k then rule :: buckets.getD k [] else buckets.getD k [] := by
  simp only [consBucket, Std.TreeMap.getD_insert, Std.LawfulEqCmp.compare_eq_iff_eq]
  split
  · next h => rw [h]
  · rfl

/-- A rule goes into the bucket of its scope and into no other. -/
theorem bucket_cons (rule : AvoidRule) (index : RuleIndex) (scope : RuleScope) :
    (cons rule index).bucket scope =
      if rule.scope = scope then rule :: index.bucket scope else index.bucket scope := by
  unfold cons
  cases hrule : rule.scope with
  | system id =>
    cases scope <;> simp [bucket, getD_consBucket]
  | constellation id =>
    cases scope <;> simp [bucket, getD_consBucket]
  | region id =>
    cases scope <;> simp [bucket, getD_consBucket]
  | edge link =>
    cases scope with
    | edge other =>
      -- connections have buckets within buckets, so both numbers have to agree
      simp only [bucket, Std.TreeMap.getD_insert, Std.LawfulEqCmp.compare_eq_iff_eq,
        RuleScope.edge.injEq]
      by_cases hlow : link.low = other.low
      · rw [if_pos hlow, getD_consBucket, hlow]
        by_cases hhigh : link.high = other.high
        · rw [if_pos hhigh, if_pos (by cases link; cases other; simp_all)]
        · rw [if_neg hhigh, if_neg (fun h : link = other => hhigh (by rw [h]))]
      · rw [if_neg hlow, if_neg (fun h : link = other => hlow (by rw [h]))]
    | _ => simp [bucket]

/-- **The bucket of a scope holds the rules of that scope, in order.** -/
theorem bucket_ofList (rules : List AvoidRule) (scope : RuleScope) :
    (ofList rules).bucket scope = rules.filter fun rule => decide (rule.scope = scope) := by
  induction rules with
  | nil => cases scope <;> simp [ofList, bucket]
  | cons rule rules ih =>
    rw [show ofList (rule :: rules) = cons rule (ofList rules) from rfl, bucket_cons, ih,
      List.filter_cons]
    simp only [decide_eq_true_eq]

@[simp] theorem size_ofList (rules : List AvoidRule) : (ofList rules).size = rules.length := by
  induction rules with
  | nil => rfl
  | cons rule rules ih =>
    rw [show ofList (rule :: rules) = cons rule (ofList rules) from rfl, List.length_cons, ← ih]
    unfold cons
    cases rule.scope <;> rfl

/-- The rules found for a system are those that cover it. -/
theorem mem_forSystem_ofList {s : StarSystem} :
    rule ∈ (ofList rules).forSystem s ↔ rule ∈ rules ∧ rule.scope.Covers s := by
  simp only [forSystem_eq, bucket_ofList, List.mem_append, List.mem_filter, decide_eq_true_eq,
    ← and_or_left, RuleScope.Covers, or_assoc]

theorem mem_forLink_ofList {a b : SystemId} :
    rule ∈ (ofList rules).forLink a b ↔ rule ∈ rules ∧ rule.scope.Joins a b := by
  simp only [forLink_eq, bucket_ofList, List.mem_filter, decide_eq_true_eq, RuleScope.Joins]

end RuleIndex

namespace RuleSet

variable {rules : List AvoidRule} {s : StarSystem} {a b : SystemId} {phase : Phase}

/-- **A system is blocked by a hard rule of the list** that covers it and applies. -/
theorem blocks_ofList : (ofList rules).blocks s phase = true ↔
    ∃ rule ∈ rules, rule.hard = true ∧ rule.applies.applies phase = true ∧
      rule.scope.Covers s := by
  simp only [blocks, hardBlock?, ofList, List.find?_isSome, RuleIndex.mem_forSystem_ofList,
    List.mem_filter]
  constructor
  · rintro ⟨rule, ⟨⟨hmem, hhard⟩, hcovers⟩, happlies⟩
    exact ⟨rule, hmem, hhard, happlies, hcovers⟩
  · rintro ⟨rule, hmem, hhard, happlies, hcovers⟩
    exact ⟨rule, ⟨⟨hmem, hhard⟩, hcovers⟩, happlies⟩

/-- **A connection is blocked by a hard rule of the list** that joins its ends and
applies. -/
theorem blocksLink_ofList : (ofList rules).blocksLink a b phase = true ↔
    ∃ rule ∈ rules, rule.hard = true ∧ rule.applies.applies phase = true ∧
      rule.scope.Joins a b := by
  simp only [blocksLink, ofList, List.any_eq_true, RuleIndex.mem_forLink_ofList, List.mem_filter]
  constructor
  · rintro ⟨rule, ⟨⟨hmem, hhard⟩, hjoins⟩, happlies⟩
    exact ⟨rule, hmem, hhard, happlies, hjoins⟩
  · rintro ⟨rule, hmem, hhard, happlies, hjoins⟩
    exact ⟨rule, ⟨⟨hmem, hhard⟩, hjoins⟩, happlies⟩

/-- Rules that forbid and rules that discourage are all the rules of a list. -/
theorem hardCount_add_softCount_ofList (rules : List AvoidRule) :
    (ofList rules).hardCount + (ofList rules).softCount = rules.length := by
  simp only [hardCount, softCount, ofList, RuleIndex.size_ofList]
  exact (List.length_eq_length_filter_add AvoidRule.hard).symm

/-- **The soft rules crossed by a step are those of the list** that apply and are about
the system entered or the connection. -/
theorem mem_softHits_ofList {rule : AvoidRule} {target : StarSystem} :
    rule ∈ (ofList rules).softHits a target phase ↔
      rule ∈ rules ∧ rule.hard = false ∧ rule.applies.applies phase = true ∧
        (rule.scope.Covers target ∨ rule.scope.Joins a target.id) := by
  simp only [softHits, ofList, List.mem_filter, List.mem_append, RuleIndex.mem_forSystem_ofList,
    RuleIndex.mem_forLink_ofList, Bool.not_eq_true', ← and_or_left]
  tauto

/-- A step is dearer by the severities of the soft rules it crosses. -/
theorem penalty_eq (set : RuleSet) (source : SystemId) (target : StarSystem) (phase : Phase) :
    set.penalty source target phase =
      severityCost * ((set.softHits source target phase).map (·.severity)).sum := by
  rw [penalty, ← List.sum_eq_foldr, ← List.sum_map_mul_left]
  rfl

/-- Every soft rule crossed makes a step dearer, where rules have a severity. -/
theorem length_softHits_le_penalty (hseverity : ∀ rule ∈ rules, 1 ≤ rule.severity)
    (source : SystemId) (target : StarSystem) (phase : Phase) :
    severityCost * ((ofList rules).softHits source target phase).length ≤
      (ofList rules).penalty source target phase := by
  rw [penalty_eq, ← List.length_map AvoidRule.severity]
  refine Nat.mul_le_mul_left _ (List.length_le_sum_of_one_le _ fun n hn => ?_)
  obtain ⟨rule, hrule, rfl⟩ := List.mem_map.mp hn
  exact hseverity rule (mem_softHits_ofList.mp hrule).1

/-- The hard rules go where the list loses them. -/
theorem withoutHard_ofList (rules : List AvoidRule) :
    (ofList rules).withoutHard = ofList (rules.filter fun rule => !rule.hard) := by
  have hnone : (rules.filter fun rule => !rule.hard).filter (·.hard) = [] := by
    simp [List.filter_filter]
  have hsoft : (rules.filter fun rule => !rule.hard).filter (fun rule => !rule.hard) =
      rules.filter fun rule => !rule.hard := by
    simp [List.filter_filter]
  simp only [withoutHard, ofList, hnone, hsoft]
  rfl

/-- A list of hard rules leaves no soft ones. -/
theorem soft_ofList_eq_empty (hhard : ∀ rule ∈ rules, rule.hard = true) :
    (ofList rules).soft = {} := by
  have hnone : (rules.filter fun rule => !rule.hard) = [] := by
    simpa [List.filter_eq_nil_iff] using hhard
  simp [ofList, hnone, RuleIndex.ofList]

/-- A set that counts no hard rules has none to lose. -/
theorem withoutHard_of_hardCount_eq_zero (h : (ofList rules).hardCount = 0) :
    (ofList rules).withoutHard = ofList rules := by
  have hnone : rules.filter (·.hard) = [] := by
    simpa [hardCount, ofList] using h
  simp [withoutHard, ofList, hnone, RuleIndex.ofList]

/-! ## Rules among others -/

/-- Rules that are among others block no system that these do not block. -/
theorem blocks_of_subset {kept : List AvoidRule} (h : kept ⊆ rules)
    (hblocks : (ofList kept).blocks s phase = true) : (ofList rules).blocks s phase = true := by
  obtain ⟨rule, hrule, hmet⟩ := blocks_ofList.mp hblocks
  exact blocks_ofList.mpr ⟨rule, h hrule, hmet⟩

theorem blocksLink_of_subset {kept : List AvoidRule} (h : kept ⊆ rules)
    (hblocks : (ofList kept).blocksLink a b phase = true) :
    (ofList rules).blocksLink a b phase = true := by
  obtain ⟨rule, hrule, hmet⟩ := blocksLink_ofList.mp hblocks
  exact blocksLink_ofList.mpr ⟨rule, h hrule, hmet⟩

end RuleSet

section Subperm

variable {rules kept : List AvoidRule} (h : kept.Subperm rules)

include h

namespace RuleIndex

theorem bucket_subperm (scope : RuleScope) :
    ((ofList kept).bucket scope).Subperm ((ofList rules).bucket scope) := by
  rw [bucket_ofList, bucket_ofList]
  exact h.filter _

theorem forSystem_subperm (s : StarSystem) :
    ((ofList kept).forSystem s).Subperm ((ofList rules).forSystem s) :=
  ((bucket_subperm h (.system s.id)).append
    (bucket_subperm h (.constellation s.constellation))).append
    (bucket_subperm h (.region s.region))

theorem forLink_subperm (a b : SystemId) :
    ((ofList kept).forLink a b).Subperm ((ofList rules).forLink a b) :=
  bucket_subperm h (.edge (Link.between a b))

end RuleIndex

/-- **Soft rules that are among others add no more to a step.** -/
theorem RuleSet.penalty_le_of_subperm (source : SystemId) (target : StarSystem) (phase : Phase) :
    (ofList kept).penalty source target phase ≤ (ofList rules).penalty source target phase := by
  have hsoft := h.filter fun rule => !rule.hard
  have hhits : ((ofList kept).softHits source target phase).Subperm
      ((ofList rules).softHits source target phase) :=
    ((RuleIndex.forSystem_subperm hsoft target).append
      (RuleIndex.forLink_subperm hsoft source target.id)).filter _
  obtain ⟨hits, hperm, hsub⟩ := hhits
  calc
    (ofList kept).penalty source target phase = (hits.map (·.penalty)).sum :=
      (hperm.map _).sum_eq.symm
    _ ≤ (ofList rules).penalty source target phase :=
      (hsub.map _).sum_le_sum fun _ _ => Nat.zero_le _

end Subperm

end StarFreight
