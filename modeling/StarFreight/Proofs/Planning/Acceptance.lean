import StarFreight.Proofs.Planning.Agreement
/-!
# Planning — the criterion of a judge

What a judge asks of a path (`PathJudge.Accepts`) is said here without the judge's own
functions: who knows a system (`PathJudge.Knows`), which phase a position is travelled in
(`Leg`), and what follows for the systems (`PathJudge.Approves`). A judge returns exactly
the paths that meet it. All others it turns down, a path without systems for want of an
answer and the rest as a path that is not permitted, unless the tables could not be read
(`PathJudge.validate_decides`).
-/

namespace StarFreight

variable {phase : Phase} {length i : Nat}

/-- The phase in which a position of a path of some length is travelled. A path of one
system is all pickup. -/
inductive Leg (length : Nat) : Nat → Phase → Prop where
  | first : Leg length 0 .pickup
  | last {i : Nat} (hpos : 0 < i) (hend : i + 1 = length) : Leg length i .delivery
  | between {i : Nat} (hpos : 0 < i) (hlt : i + 1 < length) : Leg length i .transit

theorem leg_iff (hi : i < length) : Leg length i phase ↔ phase = pathPhase i (length - 1) := by
  constructor
  · intro h
    cases h with
    | first => rfl
    | last hpos hend => rw [pathPhase, if_neg (by omega), if_pos (by omega)]
    | between hpos hlt => rw [pathPhase, if_neg (by omega), if_neg (by omega)]
  · rintro rfl
    unfold pathPhase
    split_ifs with hfirst hlast
    · exact hfirst ▸ .first
    · exact .last (by omega) (by omega)
    · exact .between (by omega) (by omega)

namespace PathJudge

variable {judge : PathJudge} {origin destination : SystemId} {path : List SystemId}
  {s : StarSystem} {systems : List StarSystem} {id : SystemId} {cause : FailureCause}

/-- Who knows a system under a number: the graph, or else the table of the graph's systems,
or else the table of all systems. -/
inductive Knows (judge : PathJudge) (id : SystemId) (s : StarSystem) : Prop where
  | graph (h : judge.context.snapshot.system? id = some s)
  | charted (hgraph : judge.context.snapshot.system? id = none)
      (h : judge.database.systemIn? .mapSystems id = .ok (some s))
  | reference (hgraph : judge.context.snapshot.system? id = none)
      (hcharted : judge.database.systemIn? .mapSystems id = .ok none)
      (h : judge.database.systemIn? .referenceSystems id = .ok (some s))

theorem knownSystem?_eq_ok_iff :
    judge.database.knownSystem? judge.context.snapshot id = .ok (some s) ↔ judge.Knows id s := by
  constructor
  · intro h
    unfold Database.knownSystem? at h
    split at h
    · next hgraph =>
      exact .graph (hgraph.trans (Except.ok.inj h))
    · next hgraph =>
      obtain ⟨found, hfound, h⟩ := bind_eq_ok.mp h
      cases found with
      | some other => exact .charted hgraph (hfound.trans h)
      | none => exact .reference hgraph hfound h
  · intro h
    cases h with
    | graph h => exact Database.knownSystem?_of_system? h
    | charted hgraph h =>
      rw [Database.knownSystem?, hgraph]
      exact bind_eq_ok.mpr ⟨_, h, rfl⟩
    | reference hgraph hcharted h =>
      rw [Database.knownSystem?, hgraph]
      exact bind_eq_ok.mpr ⟨_, hcharted, h⟩

/-- What a path between two ends has to be for its systems to be approved. -/
structure Approves (judge : PathJudge) (origin destination : SystemId) (path : List SystemId)
    (systems : List StarSystem) : Prop where
  head : path.head? = some origin
  last : path.getLast? = some destination
  moves : path.IsChain (· ≠ ·)
  known : List.Forall₂ judge.Knows path systems
  allowed : ∀ i s phase, systems[i]? = some s → Leg path.length i phase →
    judge.context.policy.allows s phase = true
  free : ∀ i s phase, systems[i]? = some s → Leg path.length i phase →
    judge.context.rules.blocks s phase = false
  /-- No connection is forbidden in the phase of the system entered. -/
  unobstructed : ∀ i a b phase, systems[i]? = some a → systems[i + 1]? = some b →
    Leg path.length (i + 1) phase → judge.context.rules.blocksLink a.id b.id phase = false
  /-- The safest profile keeps to high security, and so does a path from and to it. -/
  highsec : judge.context.profile = .safest ∨
      (∃ a b, systems.head? = some a ∧ systems.getLast? = some b ∧
        judge.context.policy.classify a = .highsec ∧
        judge.context.policy.classify b = .highsec) →
    AllHighSec judge.context.policy systems

/-- Legal systems are legal in every leg. -/
theorem legal_iff (hlength : length = systems.length) : Legal judge.context systems ↔
    (∀ i s phase, systems[i]? = some s → Leg length i phase →
      judge.context.policy.allows s phase = true) ∧
    (∀ i s phase, systems[i]? = some s → Leg length i phase →
      judge.context.rules.blocks s phase = false) ∧
    ∀ i a b phase, systems[i]? = some a → systems[i + 1]? = some b → Leg length (i + 1) phase →
      judge.context.rules.blocksLink a.id b.id phase = false := by
  subst hlength
  have hlt : ∀ {i s}, systems[i]? = some s → i < systems.length := fun h =>
    (List.getElem?_eq_some_iff.mp h).1
  constructor
  · intro h
    refine ⟨fun i s phase hs hleg => ?_, fun i s phase hs hleg => ?_,
      fun i a b phase ha hb hleg => ?_⟩
    · rw [(leg_iff (hlt hs)).mp hleg]
      exact h.allowed i s hs
    · rw [(leg_iff (hlt hs)).mp hleg]
      exact h.free i s hs
    · rw [(leg_iff (hlt hb)).mp hleg]
      exact h.unobstructed i a b ha hb
  · rintro ⟨hallowed, hfree, hlinks⟩
    exact ⟨fun i s hs => hallowed i s _ hs ((leg_iff (hlt hs)).mpr rfl),
      fun i s hs => hfree i s _ hs ((leg_iff (hlt hs)).mpr rfl),
      fun i a b ha hb => hlinks i a b _ ha hb ((leg_iff (hlt hb)).mpr rfl)⟩

/-- A judge accepts what is approved. -/
theorem accepts_iff_approves : judge.Accepts origin destination path systems ↔
    judge.Approves origin destination path systems := by
  have hknown : List.Forall₂ (fun id s =>
      judge.database.knownSystem? judge.context.snapshot id = .ok (some s)) path systems ↔
      List.Forall₂ judge.Knows path systems := by
    simp only [knownSystem?_eq_ok_iff]
  constructor
  · intro h
    obtain ⟨hallowed, hfree, hlinks⟩ := (legal_iff h.known.length_eq).mp h.legal
    refine ⟨h.head, h.last, h.moves, hknown.mp h.known, hallowed, hfree, hlinks, fun hneed => ?_⟩
    obtain ⟨a, ha, -⟩ := head?_of_forall₂ h.known h.head
    obtain ⟨b, hb, -⟩ := getLast?_of_forall₂ h.known h.last
    refine h.highsec a b ha hb (needsHighSec_iff.mpr (hneed.imp_right ?_))
    rintro ⟨a', b', ha', hb', hclasses⟩
    obtain rfl := Option.some.inj (ha.symm.trans ha')
    obtain rfl := Option.some.inj (hb.symm.trans hb')
    exact hclasses
  · intro h
    refine ⟨h.head, h.last, h.moves, hknown.mpr h.known,
      (legal_iff h.known.length_eq).mpr ⟨h.allowed, h.free, h.unobstructed⟩,
      fun a b ha hb hneed => h.highsec ?_⟩
    exact (needsHighSec_iff.mp hneed).imp_right fun hclasses => ⟨a, b, ha, hb, hclasses⟩

/-! ## What is turned down -/

/-- The systems of a path cannot be had when one of them is unknown or cannot be looked up. -/
theorem cause_of_systemsOf (h : judge.systemsOf path = .error cause) :
    (∃ why, cause = .rejected why) ∨ ∃ id ∈ path, ∃ e,
      judge.database.knownSystem? judge.context.snapshot id = .error e ∧ cause = .store e := by
  obtain ⟨id, hid, h⟩ := exists_mem_of_mapM_eq_error h
  rcases bind_eq_error.mp h with h | ⟨found, -, h⟩
  · obtain ⟨e, he, rfl⟩ := mapError_eq_error.mp h
    exact .inr ⟨id, hid, e, he, rfl⟩
  · cases found with
    | some s => cases h
    | none => exact .inl ⟨_, (Except.error.inj h).symm⟩

/-- A path with systems is turned down for what is wrong with it, or because one of
them cannot be looked up. -/
theorem cause_of_validate (hpath : path ≠ [])
    (h : judge.validate origin destination path = .error cause) :
    (∃ why, cause = .rejected why) ∨ ∃ id ∈ path, ∃ e,
      judge.database.knownSystem? judge.context.snapshot id = .error e ∧ cause = .store e := by
  unfold validate at h
  split at h
  · split_ifs at h
    · exact .inl ⟨_, (Except.error.inj h).symm⟩
    · exact .inl ⟨_, (Except.error.inj h).symm⟩
    · rcases bind_eq_error.mp h with h | ⟨systems, -, h⟩
      · exact cause_of_systemsOf h
      · split at h
        · split at h
          · exact .inl ⟨_, (Except.error.inj h).symm⟩
          · cases h
        · cases h
  · next hnone =>
    exact absurd (List.getLast?_eq_some_getLast hpath)
      (hnone _ _ (List.head?_eq_some_head hpath))

/-- What comes of judging a path between two ends. -/
structure Decides (judge : PathJudge) (origin destination : SystemId)
    (path : List SystemId) : Prop where
  accepts : ∀ systems, judge.validate origin destination path = .ok systems ↔
    judge.Approves origin destination path systems
  numbers : ∀ systems, judge.validate origin destination path = .ok systems →
    systems.map (·.id) = path
  empty : path = [] → ∃ cause, judge.validate origin destination path = .error cause ∧
    cause.reason = .oracleNoPath
  /-- As long as every system can be looked up, what is not approved is not permitted. -/
  rejects : path ≠ [] →
    (∀ id ∈ path, ∃ found, judge.database.knownSystem? judge.context.snapshot id = .ok found) →
    (∀ systems, ¬ judge.Approves origin destination path systems) →
      ∃ cause, judge.validate origin destination path = .error cause ∧
        cause.reason = .oraclePathRejected
  /-- There is no other failure than that of a look-up. -/
  fails : path ≠ [] → ∀ cause, judge.validate origin destination path = .error cause →
    cause.reason = .oraclePathRejected ∨ ∃ id ∈ path, ∃ e,
      judge.database.knownSystem? judge.context.snapshot id = .error e ∧ cause = .store e

/-- **A judge returns the systems of exactly the paths that are approved**, whatever the
tables, the graph, the rules, the policy and the profile are, and says of the others why. -/
theorem validate_decides : judge.Decides origin destination path := by
  have haccepts : ∀ systems, judge.validate origin destination path = .ok systems ↔
      judge.Approves origin destination path systems := fun systems =>
    validate_eq_ok_iff.trans accepts_iff_approves
  constructor
  case accepts => exact haccepts
  case numbers =>
    intro systems h
    have hknown := (validate_eq_ok_iff.mp h).known
    have hids : List.Forall₂ (fun id s => id = StarSystem.id s) path systems :=
      hknown.imp fun id s hs => (Database.id_of_knownSystem? hs).symm
    rw [← List.forall₂_eq_eq_eq, List.forall₂_map_left_iff]
    exact hids.flip.imp fun _ _ h => h.symm
  case empty =>
    rintro rfl
    exact ⟨_, rfl, rfl⟩
  case rejects =>
    intro hpath hlookups hnot
    cases h : judge.validate origin destination path with
    | ok systems => exact absurd ((haccepts systems).mp h) (hnot systems)
    | error cause =>
      refine ⟨cause, rfl, ?_⟩
      rcases cause_of_validate hpath h with ⟨why, rfl⟩ | ⟨id, hid, e, he, -⟩
      · rfl
      · obtain ⟨found, hfound⟩ := hlookups id hid
        exact nomatch he.symm.trans hfound
  case fails =>
    intro hpath cause h
    exact (cause_of_validate hpath h).imp_left fun ⟨_, hwhy⟩ => hwhy ▸ rfl

end PathJudge

end StarFreight
