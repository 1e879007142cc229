import StarFreight.Proofs.Search.Relaxation
/-!
# Search — profiles in order

What the profile has to do with a route, when all else is the same. Only the safest
profile refuses more than the policy does (`admits_of_profile`), so the others find
a route between the same systems. What it leaves is high security, where no
profile has anything to add, and the shortest profile never has: so routes cost no less
from the shortest profile to the balanced one and on to the safest
(`cost_le_of_profile`).
-/

namespace StarFreight

namespace SearchContext

variable {snapshot : Snapshot} {rules : RuleSet} {policy : Policy} {strict lax : Profile}
  {s goal u : SystemId} {path : List SystemId}

/-- What one profile permits another does too, unless that one alone is the safest. -/
theorem admits_of_profile (hsafest : lax = .safest → strict = .safest) {target : StarSystem}
    {phase : Phase} (hadmits : admits ⟨snapshot, rules, policy, strict⟩ u target phase = true) :
    admits ⟨snapshot, rules, policy, lax⟩ u target phase = true := by
  obtain ⟨hallows, hclass, hfree⟩ := admits_iff.mp hadmits
  exact admits_iff.mpr ⟨hallows, fun hlax => hclass (hsafest hlax), hfree⟩

/-- The walks of one profile are walks of the other. -/
theorem walk_of_profile (hsafest : lax = .safest → strict = .safest)
    (hwalk : Walk ⟨snapshot, rules, policy, strict⟩ s goal path) :
    Walk ⟨snapshot, rules, policy, lax⟩ s goal path :=
  ⟨hwalk.head, hwalk.last, hwalk.moves.imp fun _ _ hmove =>
    ⟨hmove.ne_start, hmove.neighbour, hmove.admitted.imp fun _ htarget =>
      htarget.imp_right (admits_of_profile hsafest)⟩, hwalk.goal_last⟩

/-- **So where one profile finds a route, the other does.** -/
theorem exists_findRoute_of_profile {found : RouteFound}
    (hsafest : lax = .safest → strict = .safest)
    (hfound : findRoute ⟨snapshot, rules, policy, strict⟩ s goal = some found) :
    ∃ other, findRoute ⟨snapshot, rules, policy, lax⟩ s goal = some other := by
  have hs : s = goal → snapshot.contains s = true := contains_of_findRoute hfound
  exact exists_findRoute_of_walk hs (walk_of_profile hsafest (walk_of_findRoute hfound))

/-- A profile that adds no more to a step leaves less in the way. -/
theorem relaxed_of_profile (hsafest : lax = .safest → strict = .safest)
    (hadds : ∀ c, (strict = .safest → c = .highsec) → lax.surcharge c ≤ strict.surcharge c) :
    Relaxed ⟨snapshot, rules, policy, strict⟩ ⟨snapshot, rules, policy, lax⟩ where
  snapshot := ⟨fun _ _ hs => hs, fun _ _ hv => hv⟩
  admits _ _ _ := admits_of_profile hsafest
  stepCost_le u target phase hadmits := by
    obtain ⟨-, hclass, -⟩ := admits_iff.mp hadmits
    exact Nat.add_le_add_right (Nat.add_le_add_left (hadds _ hclass) _) _

/-- **And its route costs no more.** -/
theorem cost_le_of_profile {found other : RouteFound} (hsafest : lax = .safest → strict = .safest)
    (hadds : ∀ c, (strict = .safest → c = .highsec) → lax.surcharge c ≤ strict.surcharge c)
    (hfound : findRoute ⟨snapshot, rules, policy, strict⟩ s goal = some found)
    (hother : findRoute ⟨snapshot, rules, policy, lax⟩ s goal = some other) :
    other.cost ≤ found.cost := by
  obtain ⟨other', hother', hle⟩ := (relaxed_of_profile hsafest hadds).exists_findRoute hfound
  rw [hother] at hother'
  obtain rfl := Option.some.inj hother'
  exact hle

/-- **Profiles are in order.** The balanced profile finds a route exactly where the
shortest one does, and where the safest one does; their routes cost no less from one to
the next; and where no rule is soft, no route has fewer jumps than that of the
shortest profile. -/
theorem findRoute_profiles (snapshot : Snapshot) (rules : RuleSet) (policy : Policy)
    (s goal : SystemId) :
    let route (profile : Profile) := findRoute ⟨snapshot, rules, policy, profile⟩ s goal
    ((∃ found, route .balanced = some found) ↔ ∃ found, route .shortest = some found) ∧
      ((∃ found, route .safest = some found) → ∃ found, route .balanced = some found) ∧
      (∀ shortest balanced, route .shortest = some shortest → route .balanced = some balanced →
        shortest.cost ≤ balanced.cost) ∧
      (∀ balanced safest, route .balanced = some balanced → route .safest = some safest →
        balanced.cost ≤ safest.cost) ∧
      (rules.soft = {} → ∀ profile shortest other, route .shortest = some shortest →
        route profile = some other → shortest.path.length ≤ other.path.length) := by
  intro route
  have hnever : ∀ {lax strict : Profile}, lax ≠ .safest → lax = .safest → strict = .safest :=
    fun hlax h => absurd h hlax
  refine ⟨⟨?_, ?_⟩, ?_, ?_, ?_, ?_⟩
  · exact fun ⟨_, hfound⟩ => exists_findRoute_of_profile (hnever (by decide)) hfound
  · exact fun ⟨_, hfound⟩ => exists_findRoute_of_profile (hnever (by decide)) hfound
  · exact fun ⟨_, hfound⟩ => exists_findRoute_of_profile (hnever (by decide)) hfound
  · intro shortest balanced hshortest hbalanced
    exact cost_le_of_profile (hnever (by decide)) (fun _ _ => Nat.zero_le _) hbalanced hshortest
  · intro balanced safest hbalanced hsafest
    refine cost_le_of_profile (hnever (by decide)) (fun c hc => ?_) hsafest hbalanced
    rw [hc rfl]
    exact le_rfl
  · intro hsoft profile shortest other hshortest hother
    -- the other route is a walk of the shortest profile, which finds none of fewer jumps
    have hwalk : Walk ⟨snapshot, rules, policy, .shortest⟩ s goal other.path :=
      walk_of_profile (hnever (by decide)) (walk_of_findRoute hother)
    have hle := walkCost_le_of_findRoute hshortest hwalk
    have hjumps := walkCost_add_one_eq_length rfl hsoft (walk_of_findRoute hshortest)
    have hjumps' := walkCost_add_one_eq_length rfl hsoft hwalk
    omega

/-- The way through low security is the shortest one and not the one that the other profiles
take. -/
theorem findRoute_profiles_diamond :
    let route (profile : Profile) := findRoute ⟨diamond.snapshot, {}, diamond.policy, profile⟩ 1 4
    route .shortest = some ⟨[1, 5, 4], 2, 0⟩ ∧ route .balanced = some ⟨[1, 2, 3, 4], 3, 0⟩ ∧
      route .safest = some ⟨[1, 2, 3, 4], 3, 1⟩ ∧ 2 ≤ 3 ∧
      [1, 5, 4].length ≤ [1, 2, 3, 4].length := by
  intro route
  obtain ⟨-, -, hcost, -, hjumps⟩ := findRoute_profiles diamond.snapshot {} diamond.policy 1 4
  have hshortest : route .shortest = some ⟨[1, 5, 4], 2, 0⟩ := by decide +kernel
  have hbalanced : route .balanced = some ⟨[1, 2, 3, 4], 3, 0⟩ := by decide +kernel
  have hsafest : route .safest = some ⟨[1, 2, 3, 4], 3, 1⟩ := by decide +kernel
  exact ⟨hshortest, hbalanced, hsafest, hcost _ _ hshortest hbalanced,
    hjumps rfl _ _ _ hshortest hsafest⟩

end SearchContext

end StarFreight
