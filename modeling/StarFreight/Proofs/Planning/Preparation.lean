import StarFreight.Planning.Prepared
import StarFreight.Proofs.Store.Lookup
/-!
# Planning — what a prepared request is made of

Preparation adds nothing of its own: ends, rules and policy are what the tables
and the graph say of the request (`Prepared.Of`), and it succeeds when these can
be had and neither end has a fault (`prepare_eq_ok`). The ends have no fault
exactly when profile, scope, policy and hard rules all accept each of them
(`endFault?_eq_none_iff`).
-/

namespace StarFreight

namespace Prepared

variable {p : Prepared} {e : RouteEnd} {database : Database} {snapshot : Snapshot}
  {request : RouteRequest}

/-- What is prepared for a request is what the tables and the graph say of it. -/
structure Of (p : Prepared) (database : Database) (snapshot : Snapshot) (request : RouteRequest) :
    Prop where
  database_eq : p.database = database
  snapshot_eq : p.snapshot = snapshot
  profile_eq : p.profile = request.profile
  rules_eq : database.rules = .ok p.rules
  policy_eq : database.policy = .ok p.policy
  origin_resolved :
    Gazetteer.resolve ⟨database, snapshot⟩ request.origin = .ok p.origin.location
  destination_resolved :
    Gazetteer.resolve ⟨database, snapshot⟩ request.destination = .ok p.destination.location
  origin_known :
    database.knownSystem? snapshot p.origin.location.systemId = .ok (some p.origin.system)
  destination_known :
    database.knownSystem? snapshot p.destination.location.systemId =
      .ok (some p.destination.system)
  origin_phase : p.origin.phase = .pickup
  destination_phase : p.destination.phase = .delivery
  origin_scope : p.origin.scope = request.pickup
  destination_scope : p.destination.scope = request.delivery

/-- The system to start from has the number resolved. -/
theorem Of.origin_id (h : p.Of database snapshot request) :
    p.origin.system.id = p.origin.location.systemId :=
  Database.id_of_knownSystem? h.origin_known

theorem Of.destination_id (h : p.Of database snapshot request) :
    p.destination.system.id = p.destination.location.systemId :=
  Database.id_of_knownSystem? h.destination_known

/-- The system to start from is the one known under its number. -/
theorem Of.knows_origin (h : p.Of database snapshot request) :
    p.database.knownSystem? p.snapshot p.origin.system.id = .ok (some p.origin.system) := by
  rw [h.origin_id, h.database_eq, h.snapshot_eq]
  exact h.origin_known

theorem Of.knows_destination (h : p.Of database snapshot request) :
    p.database.knownSystem? p.snapshot p.destination.system.id =
      .ok (some p.destination.system) := by
  rw [h.destination_id, h.database_eq, h.snapshot_eq]
  exact h.destination_known

/-- The rules prepared are made of the rows that are active. -/
theorem Of.rules_ofList (h : p.Of database snapshot request) :
    ∃ rows, database.activeRuleRows = .ok rows ∧
      p.rules = .ofList (rows.filterMap RuleRow.toRule?) := by
  obtain ⟨rows, hrows, hrules⟩ := bind_eq_ok.mp h.rules_eq
  exact ⟨rows, hrows, (pure_eq_ok.mp hrules).symm⟩

/-! ## Faults of the ends -/

/-- Profile, scope, policy and hard rules accept an end. -/
structure Accepts (p : Prepared) (e : RouteEnd) : Prop where
  highsec : p.profile = .safest → p.policy.classify e.system = .highsec
  permitted : e.scope.permits e.system e.location.locationId = true
  allowed : p.policy.allows e.system e.phase = true
  free : p.rules.blocks e.system e.phase = false

theorem classFault?_eq_none_iff :
    p.classFault? e = none ↔ (p.profile = .safest → p.policy.classify e.system = .highsec) := by
  simp [classFault?]

theorem scopeFault?_eq_none_iff :
    p.scopeFault? e = none ↔ e.scope.permits e.system e.location.locationId = true := by
  simp [scopeFault?]

theorem policyFault?_eq_none_iff :
    p.policyFault? e = none ↔ p.policy.allows e.system e.phase = true := by
  simp [policyFault?]

theorem ruleFault?_eq_none_iff :
    p.ruleFault? e = none ↔ p.rules.blocks e.system e.phase = false := by
  simp [ruleFault?, RuleSet.blocks]

/-- **The ends have no fault exactly when both are accepted.** -/
theorem endFault?_eq_none_iff :
    p.endFault? = none ↔ p.Accepts p.origin ∧ p.Accepts p.destination := by
  have hends : ∀ fault? : RouteEnd → Option FailureCause,
      p.ends.findSome? fault? = none ↔ fault? p.origin = none ∧ fault? p.destination = none := by
    intro fault?
    simp [ends, List.findSome?_eq_none_iff]
  simp only [endFault?, Option.orElse_eq_orElse, Option.orElse_eq_or, Option.or_eq_none_iff, hends,
    classFault?_eq_none_iff, scopeFault?_eq_none_iff, policyFault?_eq_none_iff,
    ruleFault?_eq_none_iff]
  constructor
  · rintro ⟨hclass, hscope, hpolicy, hrule⟩
    exact ⟨⟨hclass.1, hscope.1, hpolicy.1, hrule.1⟩, ⟨hclass.2, hscope.2, hpolicy.2, hrule.2⟩⟩
  · rintro ⟨horigin, hdestination⟩
    exact ⟨⟨horigin.highsec, hdestination.highsec⟩, ⟨horigin.permitted, hdestination.permitted⟩,
      ⟨horigin.allowed, hdestination.allowed⟩, ⟨horigin.free, hdestination.free⟩⟩

end Prepared

variable {g : Gazetteer} {location : ResolvedLocation} {s : StarSystem} {p : Prepared}
  {database : Database} {snapshot : Snapshot} {request : RouteRequest}

/-- The system of a resolved place is the one known under its number. -/
theorem Gazetteer.endSystem_eq_ok :
    g.endSystem location = .ok s ↔
      g.database.knownSystem? g.snapshot location.systemId = .ok (some s) :=
  demand_eq_ok (fun _ => rfl) nofun

/-- A system given by its number is resolved when it is known. -/
theorem Gazetteer.resolve_number_eq_ok {id : SystemId} :
    g.resolve (.number id .system) = .ok location ↔
      ∃ s, g.database.knownSystem? g.snapshot id = .ok (some s) ∧
        location = { systemId := id, matchedName := s.name } := by
  simp only [resolve, resolveNumber, bind_eq_ok]
  constructor
  · rintro ⟨_ | s, hs, h⟩
    · cases h
    · exact ⟨s, mapError_eq_ok.mp hs, (Except.ok.inj h).symm⟩
  · rintro ⟨s, hs, rfl⟩
    exact ⟨some s, mapError_eq_ok.mpr hs, rfl⟩

/-- What is gathered for a request is what the tables and the graph say of it. -/
theorem of_gatherPrepared (h : gatherPrepared database snapshot request = .ok p) :
    p.Of database snapshot request := by
  unfold gatherPrepared at h
  obtain ⟨origin, horigin, h⟩ := bind_eq_ok.mp h
  obtain ⟨destination, hdestination, h⟩ := bind_eq_ok.mp h
  obtain ⟨rules, hrules, h⟩ := bind_eq_ok.mp h
  obtain ⟨policy, hpolicy, h⟩ := bind_eq_ok.mp h
  obtain ⟨first, hfirst, h⟩ := bind_eq_ok.mp h
  obtain ⟨last, hlast, h⟩ := bind_eq_ok.mp h
  obtain rfl := pure_eq_ok.mp h
  exact {
    database_eq := rfl
    snapshot_eq := rfl
    profile_eq := rfl
    rules_eq := mapError_eq_ok.mp hrules
    policy_eq := mapError_eq_ok.mp hpolicy
    origin_resolved := mapError_eq_ok.mp horigin
    destination_resolved := mapError_eq_ok.mp hdestination
    origin_known := Gazetteer.endSystem_eq_ok.mp (mapError_eq_ok.mp hfirst)
    destination_known := Gazetteer.endSystem_eq_ok.mp (mapError_eq_ok.mp hlast)
    origin_phase := rfl
    destination_phase := rfl
    origin_scope := rfl
    destination_scope := rfl }

/-- What the tables and the graph say of a request can be gathered for it. -/
theorem Prepared.Of.gathered (h : p.Of database snapshot request) :
    gatherPrepared database snapshot request = .ok p := by
  obtain ⟨_, _, rules, policy, profile, ⟨phase, first, location, scope⟩,
    ⟨phase', last, location', scope'⟩⟩ := p
  obtain ⟨rfl, rfl, rfl, hrules, hpolicy, horigin, hdestination, hfirst, hlast, rfl, rfl, rfl,
    rfl⟩ :=
    h
  unfold gatherPrepared
  refine bind_eq_ok.mpr ⟨location, mapError_eq_ok.mpr horigin, ?_⟩
  refine bind_eq_ok.mpr ⟨location', mapError_eq_ok.mpr hdestination, ?_⟩
  refine bind_eq_ok.mpr ⟨rules, mapError_eq_ok.mpr hrules, ?_⟩
  refine bind_eq_ok.mpr ⟨policy, mapError_eq_ok.mpr hpolicy, ?_⟩
  refine bind_eq_ok.mpr ⟨first, mapError_eq_ok.mpr (Gazetteer.endSystem_eq_ok.mpr hfirst), ?_⟩
  exact bind_eq_ok.mpr
    ⟨last, mapError_eq_ok.mpr (Gazetteer.endSystem_eq_ok.mpr hlast), rfl⟩

/-- **A request is prepared when everything for it can be gathered and its ends have
no fault.** -/
theorem prepare_eq_ok : prepare database snapshot request = .ok p ↔
    gatherPrepared database snapshot request = .ok p ∧ p.endFault? = none := by
  unfold prepare
  rw [bind_eq_ok]
  constructor
  · rintro ⟨gathered, hgathered, h⟩
    split at h
    · cases h
    · next hfault =>
      obtain rfl := pure_eq_ok.mp h
      exact ⟨hgathered, hfault⟩
  · rintro ⟨hgathered, hfault⟩
    exact ⟨p, hgathered, by rw [hfault]; rfl⟩

/-- What is prepared for a request is what the tables and the graph say of it. -/
theorem of_prepare (h : prepare database snapshot request = .ok p) :
    p.Of database snapshot request :=
  of_gatherPrepared (prepare_eq_ok.mp h).1

/-- What is prepared for a request has ends that are accepted. -/
theorem accepts_of_prepare (h : prepare database snapshot request = .ok p) :
    p.Accepts p.origin ∧ p.Accepts p.destination :=
  Prepared.endFault?_eq_none_iff.mp (prepare_eq_ok.mp h).2

end StarFreight
