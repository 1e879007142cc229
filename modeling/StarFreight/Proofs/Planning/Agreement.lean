import StarFreight.Proofs.Planning.Passage
import StarFreight.Proofs.Search.Simple
/-!
# Planning — the judge agrees with the search

The search and the judge of paths apply the same rules in different ways: the
search prunes neighbours and tells the goal by its number, the judge reads a
list and goes by positions. On a route that the search finds they agree. The
judge has one clause more, which keeps a path between two ends in high security
from leaving it; a route that does so is the only one it turns down
(`SearchContext.Strays`).
-/

namespace StarFreight

/-- Systems between two ends in high security that do not all lie there, although
the profile is not the safest. -/
def SearchContext.Strays (ctx : SearchContext) (first last : StarSystem)
    (systems : List StarSystem) : Prop :=
  ctx.profile ≠ .safest ∧ ctx.policy.classify first = .highsec ∧
    ctx.policy.classify last = .highsec ∧ ¬ AllHighSec ctx.policy systems

namespace PathJudge

variable {judge : PathJudge} {origin destination : SystemId} {path : List SystemId}
  {first last : StarSystem} {systems : List StarSystem} {found : RouteFound}

theorem needsHighSec_iff : judge.needsHighSec first last = true ↔
    judge.context.profile = .safest ∨
      judge.context.policy.classify first = .highsec ∧
        judge.context.policy.classify last = .highsec := by
  simp [needsHighSec]

/-- A path that runs between the ends through known systems, and moves at every step,
is turned down for a fault of its systems or not at all. -/
theorem validate_eq_error (hhead : path.head? = some origin)
    (hlast : path.getLast? = some destination) (hmoves : path.IsChain (· ≠ ·))
    (hknown : List.Forall₂ (fun id s =>
      judge.database.knownSystem? judge.context.snapshot id = .ok (some s)) path systems)
    (h : judge.validate origin destination path ≠ .ok systems) :
    ∃ cause, judge.validate origin destination path = .error cause ∧
      cause.reason = .oraclePathRejected := by
  unfold validate at h ⊢
  simp only [hhead, hlast, ne_eq, not_true_eq_false, or_self, if_false,
    staysPut_eq_false_iff.mpr hmoves, Bool.false_eq_true, systemsOf_eq_ok_iff.mpr hknown] at h ⊢
  simp only [bind, Except.bind] at h ⊢
  split at h
  · split at h
    · next fault _ =>
      exact ⟨.rejected fault, rfl, rfl⟩
    · exact absurd rfl h
  · exact absurd rfl h

/-- **The judge agrees with the search** on every route that is found between two
known systems, of which cargo may be loaded at the first: the judge returns its
systems in order, unless the route strays from high security, which it rejects. -/
theorem validate_of_findRoute
    (hfirst : judge.context.snapshot.system? origin = some first)
    (hlast : judge.context.snapshot.system? destination = some last)
    (hallowed : judge.context.policy.allows first .pickup = true)
    (hfree : judge.context.rules.blocks first .pickup = false)
    (hsafest : judge.context.profile = .safest → judge.context.policy.classify first = .highsec)
    (hfound : judge.context.findRoute origin destination = some found) :
    ∃ systems, List.Forall₂ (fun id s => judge.context.snapshot.system? id = some s)
        found.path systems ∧
      (¬ judge.context.Strays first last systems →
        judge.validate origin destination found.path = .ok systems) ∧
      (judge.context.Strays first last systems →
        ∃ cause, judge.validate origin destination found.path = .error cause ∧
          cause.reason = .oraclePathRejected) := by
  have hwalk := SearchContext.walk_of_findRoute hfound
  have hsystems := SearchContext.forall₂_filterMap_system? judge.context.snapshot
    (hwalk.isSome_system? (by rw [hfirst]; rfl))
  generalize found.path.filterMap judge.context.snapshot.system? = systems at hsystems
  -- the first and the last of the systems are those of the ends
  obtain ⟨a, ha, hknown⟩ := head?_of_forall₂ hsystems hwalk.head
  obtain rfl : first = a := Option.some.inj (hfirst.symm.trans hknown)
  obtain ⟨b, hb, hknown⟩ := getLast?_of_forall₂ hsystems hwalk.last
  obtain rfl : last = b := Option.some.inj (hlast.symm.trans hknown)
  have hmoves := SearchContext.isChain_ne_of_findRoute hfound
  have hknown : List.Forall₂ (fun id s =>
      judge.database.knownSystem? judge.context.snapshot id = .ok (some s)) found.path systems :=
    hsystems.imp fun _ _ hs => Database.knownSystem?_of_system? hs
  have hlegal := SearchContext.Walk.legal hwalk hsystems (List.head?_eq_getElem?.symm.trans ha)
    hallowed hfree
  have hhigh := fun h => SearchContext.Walk.allHighSec hwalk hsystems
    (List.head?_eq_getElem?.symm.trans ha) h (hsafest h)
  refine ⟨systems, hsystems, fun hstay => ?_, fun hstray => ?_⟩
  · refine validate_eq_ok_iff.mpr
      ⟨hwalk.head, hwalk.last, hmoves, hknown, hlegal, fun c d hc hd hneed => ?_⟩
    obtain rfl := Option.some.inj (ha.symm.trans hc)
    obtain rfl := Option.some.inj (hb.symm.trans hd)
    rcases needsHighSec_iff.mp hneed with hprofile | ⟨hclass, hclass'⟩
    · exact hhigh hprofile
    · -- the clause of the judge's own holds of a route that does not stray
      by_contra hout
      exact hstay ⟨fun hprofile => hout (hhigh hprofile), hclass, hclass', hout⟩
  · obtain ⟨-, hclass, hclass', hout⟩ := hstray
    refine validate_eq_error hwalk.head hwalk.last hmoves hknown fun hok => hout ?_
    exact (validate_eq_ok_iff.mp hok).highsec first last ha hb
      (needsHighSec_iff.mpr (.inr ⟨hclass, hclass'⟩))

/-- Through low security between two ends in high security is the cheapest way, and
the judge turns it down. -/
theorem validate_of_findRoute_diamond :
    SearchContext.diamond.findRoute 1 4 = some ⟨[1, 5, 4], 4, 0⟩ ∧
      ∃ cause, ({ database := {}, context := .diamond } : PathJudge).validate 1 4 [1, 5, 4] =
          .error cause ∧ cause.reason = .oraclePathRejected := by
  have hfound : SearchContext.diamond.findRoute 1 4 = some ⟨[1, 5, 4], 4, 0⟩ := by decide +kernel
  refine ⟨hfound, ?_⟩
  let judge : PathJudge := { database := {}, context := .diamond }
  let first : StarSystem := { id := 1, name := "", security := 0, constellation := 10, region := 1 }
  let last : StarSystem := { id := 4, name := "", security := 0, constellation := 40, region := 1 }
  have hfirst : judge.context.snapshot.system? 1 = some first := by decide +kernel
  have hlast : judge.context.snapshot.system? 4 = some last := by decide +kernel
  obtain ⟨systems, hsystems, -, hstray⟩ := validate_of_findRoute hfirst hlast (by decide +kernel)
    (by decide +kernel) (fun _ => by decide +kernel) hfound
  refine hstray ⟨by decide, by decide +kernel, by decide +kernel, fun hhigh => ?_⟩
  obtain ⟨s, hs, hsystem⟩ := getElem?_of_forall₂ hsystems (i := 1) rfl
  have hclass := hhigh s (List.mem_of_getElem? hs)
  have hlow : (SearchContext.diamond.snapshot.system? 5).map
      SearchContext.diamond.policy.classify = some .lowsec := by
    decide +kernel
  rw [hsystem, Option.map_some, Option.some.injEq] at hlow
  exact absurd (hclass.symm.trans hlow) (by decide)

end PathJudge

end StarFreight
