import StarFreight.Proofs.Avoidance.Buckets
import StarFreight.Proofs.Planning.Outcome
import StarFreight.Proofs.Planning.Passage
import StarFreight.Proofs.Search.Optimality
/-!
# Planning — every route is permitted

A route comes from the graph or from an oracle, and its ends are checked apart
from what lies between them; the guarantee is one all the same. The systems of
a route run between the ends that were prepared and are legal (`Carries`),
whichever source they come from (`carries_of_walk`, `carries_of_accepts`). Said
of the list of rules in force, and of each phase in which a system is visited,
that is what a caller relies on (`Permitted`, `Basis.Permits`).
-/

namespace StarFreight

/-- The phases in which the `index`-th of the systems on a path is visited whose
last index is `last`. The only system of a path of one is visited twice, to
load and to unload. -/
def VisitedIn (index last : Nat) : Phase → Prop
  | .pickup => index = 0
  | .delivery => index = last
  | .transit => 0 < index ∧ index < last

/-- Systems on a path that a policy and a list of rules permit. -/
structure Permitted (policy : Policy) (rules : List AvoidRule) (systems : List StarSystem) :
    Prop where
  /-- The policy allows every system in the phases in which it is visited. -/
  allowed : ∀ i s phase, systems[i]? = some s → VisitedIn i (systems.length - 1) phase →
    policy.allows s phase = true
  /-- No hard rule that applies in one of these phases covers it. -/
  uncovered : ∀ i s phase, systems[i]? = some s → VisitedIn i (systems.length - 1) phase →
    ∀ rule ∈ rules, rule.hard = true → rule.applies.applies phase = true → ¬ rule.scope.Covers s
  /-- No hard rule that applies in a phase in which a system is entered is about
  the connection it is entered by. -/
  unjoined : ∀ i a b phase, systems[i]? = some a → systems[i + 1]? = some b →
    VisitedIn (i + 1) (systems.length - 1) phase →
    ∀ rule ∈ rules, rule.hard = true → rule.applies.applies phase = true →
      ¬ rule.scope.Joins a.id b.id

section Phases

variable {i last : Nat} {phase : Phase}

/-- A system is visited in the phase of its position, or comes last and is visited to
unload. -/
theorem VisitedIn.pathPhase_eq_or (h : VisitedIn i last phase) :
    pathPhase i last = phase ∨ i = last ∧ phase = .delivery := by
  cases phase with
  | pickup => exact .inl (if_pos h)
  | delivery => exact .inr ⟨h, rfl⟩
  | transit =>
    obtain ⟨hpos, hlt⟩ := h
    exact .inl (by rw [pathPhase, if_neg (by omega), if_neg (by omega)])

/-- A system that is entered is visited in the phase of its position. -/
theorem VisitedIn.pathPhase_succ (h : VisitedIn (i + 1) last phase) :
    pathPhase (i + 1) last = phase := by
  cases phase with
  | pickup => cases h
  | delivery =>
    have hlast : i + 1 = last := h
    rw [pathPhase, if_neg (Nat.succ_ne_zero i), if_pos hlast]
  | transit => rw [pathPhase, if_neg (Nat.succ_ne_zero i), if_neg (Nat.ne_of_lt h.2)]

end Phases

namespace Prepared

variable {p : Prepared} {database : Database} {snapshot : Snapshot} {request : RouteRequest}
  {path : List SystemId} {systems : List StarSystem} {rules : List AvoidRule}

/-! ## The systems of a route -/

/-- The systems of a route between the ends of a prepared request. -/
structure Carries (p : Prepared) (systems : List StarSystem) : Prop where
  head : systems.head? = some p.origin.system
  last : systems.getLast? = some p.destination.system
  known : ∀ s ∈ systems, p.database.knownSystem? p.snapshot s.id = .ok (some s)
  legal : Legal p.context systems
  highsec : p.profile = .safest → AllHighSec p.policy systems

/-- The systems known under the numbers of a path run between the ends if the path
does. -/
theorem Of.ends_of_known (h : p.Of database snapshot request)
    (hknown : List.Forall₂ (fun id s => p.database.knownSystem? p.snapshot id = .ok (some s))
      path systems)
    (hhead : path.head? = some p.origin.system.id)
    (hlast : path.getLast? = some p.destination.system.id) :
    systems.head? = some p.origin.system ∧ systems.getLast? = some p.destination.system ∧
      ∀ s ∈ systems, p.database.knownSystem? p.snapshot s.id = .ok (some s) := by
  obtain ⟨first, hfirst, horigin⟩ := head?_of_forall₂ hknown hhead
  obtain ⟨final, hfinal, hdestination⟩ := getLast?_of_forall₂ hknown hlast
  obtain rfl : p.origin.system = first :=
    Option.some.inj (Except.ok.inj (h.knows_origin.symm.trans horigin))
  obtain rfl : p.destination.system = final :=
    Option.some.inj (Except.ok.inj (h.knows_destination.symm.trans hdestination))
  refine ⟨hfirst, hfinal, fun s hs => ?_⟩
  obtain ⟨i, hi⟩ := List.getElem?_of_mem hs
  obtain ⟨id, -, hid⟩ := getElem?_of_forall₂ hknown.flip hi
  rw [Database.id_of_knownSystem? hid]
  exact hid

/-- The systems of a walk in a graph that has the start of it. -/
theorem forall₂_of_walk (hlocal : p.isLocal = true)
    (hwalk : p.context.Walk p.origin.system.id p.destination.system.id path) :
    List.Forall₂ (fun id s => p.snapshot.system? id = some s) path
      (path.filterMap p.snapshot.system?) :=
  SearchContext.forall₂_filterMap_system? p.snapshot
    (hwalk.isSome_system? (Snapshot.isSome_system? (isLocal_iff.mp hlocal).2.1))

/-- **A walk that the search finds carries the request.** -/
theorem carries_of_walk (h : p.Of database snapshot request) (horigin : p.Accepts p.origin)
    (hlocal : p.isLocal = true)
    (hwalk : p.context.Walk p.origin.system.id p.destination.system.id path) :
    p.Carries (path.filterMap p.snapshot.system?) := by
  have hsystems := forall₂_of_walk hlocal hwalk
  obtain ⟨hfirst, hfinal, hknown⟩ := h.ends_of_known
    (hsystems.imp fun _ _ hs => Database.knownSystem?_of_system? hs) hwalk.head hwalk.last
  have hzero := List.head?_eq_getElem?.symm.trans hfirst
  refine ⟨hfirst, hfinal, hknown, ?_, fun hsafest => ?_⟩
  · exact SearchContext.Walk.legal hwalk hsystems hzero
      (h.origin_phase ▸ horigin.allowed) (h.origin_phase ▸ horigin.free)
  · exact SearchContext.Walk.allHighSec hwalk hsystems hzero hsafest (horigin.highsec hsafest)

/-- The systems of a walk are neighbours in a row. -/
theorem isChain_neighbours_of_walk (hlocal : p.isLocal = true)
    (hwalk : p.context.Walk p.origin.system.id p.destination.system.id path) :
    (path.filterMap p.snapshot.system?).IsChain fun a b => b.id ∈ p.snapshot.neighbours a.id := by
  have hsystems := forall₂_of_walk hlocal hwalk
  rw [List.isChain_iff_getElem]
  intro i hi
  have ha := List.getElem?_eq_getElem (Nat.lt_of_succ_lt hi)
  have hb := List.getElem?_eq_getElem hi
  obtain ⟨ha, -⟩ := SearchContext.getElem?_of_known hsystems ha
  obtain ⟨hb, -⟩ := SearchContext.getElem?_of_known hsystems hb
  exact (hwalk.move ha hb).neighbour

/-- **A path that the judge accepts carries the request.** -/
theorem carries_of_accepts (h : p.Of database snapshot request)
    (hpath : p.judge.Accepts p.origin.system.id p.destination.system.id path systems) :
    p.Carries systems := by
  obtain ⟨hfirst, hfinal, hknown⟩ := h.ends_of_known hpath.known hpath.head hpath.last
  refine ⟨hfirst, hfinal, hknown, hpath.legal, fun hsafest => ?_⟩
  refine hpath.highsec _ _ hfirst hfinal ?_
  have hprofile : p.judge.context.profile = .safest := hsafest
  rw [PathJudge.needsHighSec, hprofile]
  rfl

/-- **What carries a request is permitted**, also to unload at the system where cargo
was loaded. -/
theorem Carries.permitted (h : p.Carries systems) (hrules : p.rules = .ofList rules)
    (hdestination : p.Accepts p.destination) (hphase : p.destination.phase = .delivery) :
    Permitted p.policy rules systems := by
  -- what comes last was checked before, as a place to unload
  have hlast : ∀ i s, systems[i]? = some s → i = systems.length - 1 → s = p.destination.system := by
    rintro i s hi rfl
    rw [← List.getLast?_eq_getElem?, h.last] at hi
    exact (Option.some.inj hi).symm
  refine ⟨fun i s phase hi hvisit => ?_, fun i s phase hi hvisit => ?_,
    fun i a b phase ha hb hvisit => ?_⟩
  · rcases hvisit.pathPhase_eq_or with rfl | ⟨hi', rfl⟩
    · exact h.legal.allowed i s hi
    · rw [hlast i s hi hi', ← hphase]
      exact hdestination.allowed
  · have hfree : p.rules.blocks s phase = false := by
      rcases hvisit.pathPhase_eq_or with rfl | ⟨hi', rfl⟩
      · exact h.legal.free i s hi
      · rw [hlast i s hi hi', ← hphase]
        exact hdestination.free
    rw [hrules, Bool.eq_false_iff, Ne, RuleSet.blocks_ofList] at hfree
    exact fun rule hrule hhard happlies hcovers => hfree ⟨rule, hrule, hhard, happlies, hcovers⟩
  · have hfree := h.legal.unobstructed i a b ha hb
    rw [hvisit.pathPhase_succ, show p.context.rules = p.rules from rfl, hrules, Bool.eq_false_iff,
      Ne, RuleSet.blocksLink_ofList] at hfree
    exact fun rule hrule hhard happlies hjoins => hfree ⟨rule, hrule, hhard, happlies, hjoins⟩

end Prepared

/-! ## What the world says of a request -/

/-- What a planner finds in a world when it is given a request. -/
structure Basis (planner : Planner) (request : RouteRequest) (w : World) where
  database : Database
  /-- The graph, from the cache or loaded. -/
  snapshot : Snapshot
  /-- The rows of rules that are active. -/
  rows : List RuleRow
  policy : Policy
  /-- What the place to start from is resolved to. -/
  origin : ResolvedLocation
  /-- What the place to arrive at is resolved to. -/
  destination : ResolvedLocation
  database_eq : w.database = some database
  snapshot_eq : (w.cache.snapshot planner.graph w.now w.database).1 = .ok snapshot
  rows_eq : database.activeRuleRows = .ok rows
  policy_eq : database.policy = .ok policy
  origin_eq : Gazetteer.resolve ⟨database, snapshot⟩ request.origin = .ok origin
  destination_eq : Gazetteer.resolve ⟨database, snapshot⟩ request.destination = .ok destination

namespace Basis

variable {planner : Planner} {request : RouteRequest} {w : World}

/-- The rules in force. -/
def rules (b : Basis planner request w) : List AvoidRule :=
  b.rows.filterMap RuleRow.toRule?

/-- A route along systems that the world permits for a request. -/
structure Permits (b : Basis planner request w) (route : Route) (systems : List StarSystem) :
    Prop where
  path_eq : route.path = systems.map b.policy.step
  /-- It starts from the system resolved, where the caller may load. -/
  head : ∃ s, systems.head? = some s ∧ s.id = b.origin.systemId ∧
    request.pickup.permits s b.origin.locationId = true
  /-- It arrives at the system resolved, where the caller may unload. -/
  last : ∃ s, systems.getLast? = some s ∧ s.id = b.destination.systemId ∧
    request.delivery.permits s b.destination.locationId = true
  known : ∀ s ∈ systems, b.database.knownSystem? b.snapshot s.id = .ok (some s)
  permitted : Permitted b.policy b.rules systems
  highsec : request.profile = .safest → AllHighSec b.policy systems
  /-- A route from the graph goes from neighbour to neighbour. -/
  adjacent : route.source = .localGraph →
    systems.IsChain fun a c => c.id ∈ b.snapshot.neighbours a.id

end Basis

namespace Planner

variable {planner : Planner} {request : RouteRequest} {w : World} {route : Route}

/-- **Every route that is planned is permitted**, whichever source it comes from. -/
theorem planRoute_permitted (h : (planner.planRoute request w).1 = .ok route) :
    ∃ (b : Basis planner request w) (systems : List StarSystem), b.Permits route systems := by
  obtain ⟨database, snapshot, after, p, hsurvey, hprepare, hsource⟩ := planRoute_eq_ok h
  obtain ⟨hdatabase, hsnapshot⟩ := survey_eq_ok hsurvey
  have hof := of_prepare hprepare
  obtain ⟨horigin, hdestination⟩ := accepts_of_prepare hprepare
  obtain ⟨rows, hrows, hrules⟩ := hof.rules_ofList
  let b : Basis planner request w :=
    { database, snapshot, rows, policy := p.policy
      origin := p.origin.location, destination := p.destination.location
      database_eq := hdatabase, snapshot_eq := hsnapshot, rows_eq := hrows
      policy_eq := hof.policy_eq, origin_eq := hof.origin_resolved
      destination_eq := hof.destination_resolved }
  -- all but the adjacency is the same for both sources
  suffices key : ∃ systems, p.Carries systems ∧ route.path = systems.map p.policy.step ∧
      (route.source = .localGraph →
        systems.IsChain fun a c => c.id ∈ p.snapshot.neighbours a.id) by
    obtain ⟨systems, hcarries, hpath, hadjacent⟩ := key
    exact ⟨b, systems, {
      path_eq := hpath
      head := ⟨_, hcarries.head, hof.origin_id, hof.origin_scope ▸ horigin.permitted⟩
      last := ⟨_, hcarries.last, hof.destination_id,
        hof.destination_scope ▸ hdestination.permitted⟩
      known := by
        have hknown := hcarries.known
        rwa [hof.database_eq, hof.snapshot_eq] at hknown
      permitted := hcarries.permitted hrules hdestination hof.destination_phase
      highsec := fun hsafest => hcarries.highsec (hof.profile_eq.trans hsafest)
      adjacent := by rwa [hof.snapshot_eq] at hadjacent }⟩
  rcases hsource with ⟨hlocal, hroute⟩ | ⟨-, oracle, -, hroute⟩
  · obtain ⟨found, hfound, rfl⟩ := Prepared.routeLocally_eq_ok.mp hroute
    have hwalk := SearchContext.walk_of_findRoute hfound
    exact ⟨_, Prepared.carries_of_walk hof horigin hlocal hwalk, rfl,
      fun _ => Prepared.isChain_neighbours_of_walk hlocal hwalk⟩
  · obtain ⟨call, path, systems, report, -, -, hpath, rfl⟩ := routeByOracle_eq_ok hroute
    exact ⟨systems, Prepared.carries_of_accepts hof hpath, rfl, nofun⟩

/-- With a hard rule on the second system, the route leads through the third. -/
theorem planRoute_permitted_lagoon :
    ∃ route, (lagoonPlanner.planRoute lagoonRequest (lagoon "system" 2)).1 = .ok route ∧
      route.path.map (·.systemId) = [1, 3, 4] ∧
      ∃ (b : Basis lagoonPlanner lagoonRequest (lagoon "system" 2)) (systems : List StarSystem),
        b.Permits route systems := by
  have hpath : ((lagoonPlanner.planRoute lagoonRequest (lagoon "system" 2)).1.toOption.map
      fun route => route.path.map (·.systemId)) = some [1, 3, 4] := by
    decide +kernel
  generalize hroute : (lagoonPlanner.planRoute lagoonRequest (lagoon "system" 2)).1 = planned
    at hpath ⊢
  cases planned with
  | error failure => cases hpath
  | ok route => exact ⟨route, rfl, Option.some.inj hpath, planRoute_permitted hroute⟩

end Planner

end StarFreight
