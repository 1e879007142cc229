import StarFreight.Proofs.Avoidance.Buckets
import StarFreight.Proofs.Planning.Conduct
import StarFreight.Proofs.Store.Union
/-!
# Planning — what an oracle is to keep away from

Hard rules are asked for in two ways: a search looks the rules on one system up
as it enters it, and an oracle is told beforehand of all the systems it may not
pass through. The second way expands every target that has a rule for passing
through, whichever place that rule has among those on the target
(`mem_transitTargets`), and gathers the systems of either table that are in it.
So the list holds what the rules reach (`mem_hardAvoidSystems`), it holds all
that the first way blocks, and what is sent of it to an oracle leaves out the
two ends alone.
-/

namespace StarFreight

variable {rules : List AvoidRule} {id target : Int}

/-! ## Targets -/

/-- **A target counts if any of its rules applies to passing through.** -/
theorem mem_transitTargets {buckets : Std.TreeMap Int (List AvoidRule)} :
    target ∈ transitTargets buckets ↔
      ∃ rule ∈ buckets.getD target [], rule.applies.transit = true := by
  simp only [transitTargets, List.mem_map, List.mem_filter, List.any_eq_true, Prod.exists,
    Std.TreeMap.mem_toList_iff_getElem?_eq_some, Std.TreeMap.getD_eq_getD_getElem?]
  constructor
  · rintro ⟨key, bucket, ⟨hbucket, hrule⟩, rfl⟩
    rwa [hbucket, Option.getD_some]
  · rintro ⟨rule, hrule, happlies⟩
    cases hbucket : buckets[target]? with
    | none =>
      rw [hbucket] at hrule
      cases hrule
    | some bucket =>
      rw [hbucket] at hrule
      exact ⟨target, bucket, ⟨hbucket, rule, hrule, happlies⟩, rfl⟩

/-- A hard rule of a list that keeps cargo from passing through something. -/
def HardInTransit (rules : List AvoidRule) (scope : RuleScope) : Prop :=
  ∃ rule ∈ rules, rule.hard = true ∧ rule.applies.transit = true ∧ rule.scope = scope

theorem exists_mem_bucket_hard (rules : List AvoidRule) (scope : RuleScope) :
    (∃ rule ∈ (RuleSet.ofList rules).hard.bucket scope, rule.applies.transit = true) ↔
      HardInTransit rules scope := by
  simp only [RuleSet.ofList, RuleIndex.bucket_ofList, List.mem_filter, decide_eq_true_eq,
    HardInTransit]
  constructor
  · rintro ⟨rule, ⟨⟨hmem, hhard⟩, hscope⟩, happlies⟩
    exact ⟨rule, hmem, hhard, happlies, hscope⟩
  · rintro ⟨rule, hmem, hhard, happlies, hscope⟩
    exact ⟨rule, ⟨⟨hmem, hhard⟩, hscope⟩, happlies⟩

theorem mem_transitTargets_systems :
    target ∈ transitTargets (RuleSet.ofList rules).hard.systems ↔
      HardInTransit rules (.system target) :=
  mem_transitTargets.trans (exists_mem_bucket_hard rules (.system target))

theorem mem_transitTargets_constellations :
    target ∈ transitTargets (RuleSet.ofList rules).hard.constellations ↔
      HardInTransit rules (.constellation target) :=
  mem_transitTargets.trans (exists_mem_bucket_hard rules (.constellation target))

theorem mem_transitTargets_regions :
    target ∈ transitTargets (RuleSet.ofList rules).hard.regions ↔
      HardInTransit rules (.region target) :=
  mem_transitTargets.trans (exists_mem_bucket_hard rules (.region target))

/-! ## The list -/

/-- Whether a scope keeps cargo away from a system: it is about the system, or about
a group in which a row of either table has it. -/
def RuleScope.Reaches (db : Database) (id : SystemId) : RuleScope → Prop
  | .system target => target = id
  | .constellation target => db.HasRow id "constellation_id" (·.equates · (.integer target))
  | .region target => db.HasRow id "region_id" (·.equates · (.integer target))
  | .edge _ => False

namespace Database

variable {db : Database} {column : String} {targets : List Int} {ids : List SystemId}

/-- The numbers found in groups are those of the rows that are in one of them. -/
theorem mem_systemIdsInGroups (hstorable : db.Storable)
    (h : db.systemIdsInGroups column targets = .ok ids) : id ∈ ids ↔
      ∃ target ∈ targets, db.HasRow id column (·.equates · (.integer target)) := by
  obtain ⟨_, -, h⟩ := bind_eq_ok.mp h
  obtain ⟨found, hfound, h⟩ := bind_eq_ok.mp h
  obtain rfl := pure_eq_ok.mp h
  have hgroups := mapM_eq_ok.mp hfound
  rw [mem_ascending, List.mem_flatten]
  exact (exists_mem_congr hgroups fun target ns hns =>
    (mem_systemIdsWhere hstorable hns id).symm).symm

/-- **What is kept away from is what the hard rules reach** that apply to passing
through. -/
theorem mem_hardAvoidSystems (hstorable : db.Storable)
    (h : db.hardAvoidSystems (.ofList rules) = .ok ids) : id ∈ ids ↔
      ∃ rule ∈ rules, rule.hard = true ∧ rule.applies.transit = true ∧
        rule.scope.Reaches db id := by
  obtain ⟨inConstellations, hconstellations, h⟩ := bind_eq_ok.mp h
  obtain ⟨inRegions, hregions, h⟩ := bind_eq_ok.mp h
  obtain rfl := pure_eq_ok.mp h
  rw [mem_ascending, List.mem_append, List.mem_append, mem_transitTargets_systems,
    mem_systemIdsInGroups hstorable hconstellations, mem_systemIdsInGroups hstorable hregions]
  simp only [mem_transitTargets_constellations, mem_transitTargets_regions]
  constructor
  · rintro ((⟨rule, hmem, hhard, happlies, hscope⟩ |
      ⟨target, ⟨rule, hmem, hhard, happlies, hscope⟩, hrow⟩) |
      ⟨target, ⟨rule, hmem, hhard, happlies, hscope⟩, hrow⟩)
    · exact ⟨rule, hmem, hhard, happlies, hscope ▸ rfl⟩
    · exact ⟨rule, hmem, hhard, happlies, hscope ▸ hrow⟩
    · exact ⟨rule, hmem, hhard, happlies, hscope ▸ hrow⟩
  · rintro ⟨rule, hmem, hhard, happlies, hreaches⟩
    cases hscope : rule.scope with
    | system target =>
      rw [hscope] at hreaches
      obtain rfl : target = id := hreaches
      exact .inl (.inl ⟨rule, hmem, hhard, happlies, hscope⟩)
    | constellation target =>
      rw [hscope] at hreaches
      exact .inl (.inr ⟨target, ⟨rule, hmem, hhard, happlies, hscope⟩, hreaches⟩)
    | region target =>
      rw [hscope] at hreaches
      exact .inr ⟨target, ⟨rule, hmem, hhard, happlies, hscope⟩, hreaches⟩
    | edge link =>
      rw [hscope] at hreaches
      exact hreaches.elim

/-- A database whose tables of systems can be read as to what systems go by. -/
def Numbered (db : Database) : Prop :=
  ∀ name ∈ systemTables, ∃ t, db.table? name = some t ∧ t.HasColumns systemColumns ∧
    ∀ row ∈ t.rows, ∃ n, t.cellIn row "system_id" = .integer n

theorem Numbered.exists_systemIdsWhere (h : db.Numbered) {c : Condition}
    (hcolumn : c.column ∈ systemColumns) : ∃ ids, db.systemIdsWhere c = .ok ids := by
  obtain ⟨m, hm, hmcolumns, hmids⟩ := h .mapSystems (mem_systemTables.mpr (.inl rfl))
  obtain ⟨r, hr, hrcolumns, hrids⟩ := h .referenceSystems (mem_systemTables.mpr (.inr rfl))
  have hasked : ["system_id", c.column] ⊆ systemColumns := by simpa [systemColumns] using hcolumn
  refine exists_systemIdsWhere_eq_ok hm hr (fun name hname => hmcolumns name (hasked hname))
    (fun name hname => hrcolumns name (hasked hname)) fun cell hcell => ?_
  rcases List.mem_append.mp hcell with hcell | hcell
  · obtain ⟨row, hrow, -, rfl⟩ := Table.mem_idCells.mp hcell
    exact hmids row hrow
  · obtain ⟨row, hrow, -, rfl⟩ := Table.mem_idCells.mp hcell
    exact hrids row hrow

theorem Numbered.exists_systemIdsInGroups (h : db.Numbered) (column : String)
    (hcolumn : column ∈ systemColumns) (targets : List Int) :
    ∃ ids, db.systemIdsInGroups column targets = .ok ids := by
  obtain ⟨none, hnone⟩ := h.exists_systemIdsWhere (c := ⟨column, fun _ _ => false⟩) hcolumn
  have hgroups : ∀ target ∈ targets, ∃ ids,
      db.systemIdsWhere (.isInteger column target) = .ok ids :=
    fun _ _ => h.exists_systemIdsWhere hcolumn
  obtain ⟨found, hfound⟩ := exists_mapM_eq_ok hgroups
  exact ⟨_, bind_eq_ok.mpr ⟨(), bind_eq_ok.mpr ⟨none, hnone, rfl⟩,
    bind_eq_ok.mpr ⟨found, hfound, rfl⟩⟩⟩

/-- **What to keep away from can be told** wherever the numbers of systems can be
read. -/
theorem Numbered.exists_hardAvoidSystems (h : db.Numbered) (rules : RuleSet) :
    ∃ ids, db.hardAvoidSystems rules = .ok ids := by
  obtain ⟨inConstellations, hconstellations⟩ := h.exists_systemIdsInGroups "constellation_id"
    (by decide) (transitTargets rules.hard.constellations)
  obtain ⟨inRegions, hregions⟩ := h.exists_systemIdsInGroups "region_id"
    (by decide) (transitTargets rules.hard.regions)
  exact ⟨_, bind_eq_ok.mpr ⟨_, hconstellations, bind_eq_ok.mpr ⟨_, hregions, rfl⟩⟩⟩

end Database

/-- A scope reaches the systems that it covers, as either table shows them. -/
theorem RuleScope.reaches_of_covers {db : Database} {scope : RuleScope} {name : TableName}
    {t : Table} {row : Row} {s : StarSystem} (hcovers : scope.Covers s)
    (hname : name ∈ systemTables) (ht : db.table? name = some t) (hrow : row ∈ t.rows)
    (hs : t.Shows row s) : scope.Reaches db s.id := by
  rcases hcovers with rfl | rfl | rfl
  · rfl
  · refine ⟨name, hname, t, ht, row, hrow, hs.id, ?_⟩
    rw [hs.constellation]
    exact Affinity.equates_integer.mpr rfl
  · refine ⟨name, hname, t, ht, row, hrow, hs.id, ?_⟩
    rw [hs.region]
    exact Affinity.equates_integer.mpr rfl

/-! ## The guarantee -/

namespace Database

variable {db : Database}

/-- What a list of systems to keep away from is for a list of rules. -/
structure AvoidList (db : Database) (rules : List AvoidRule) (ids : List SystemId) : Prop where
  /-- It holds what the hard rules reach that apply to passing through. -/
  mem_iff : ∀ id, id ∈ ids ↔ ∃ rule ∈ rules, rule.hard = true ∧ rule.applies.transit = true ∧
    rule.scope.Reaches db id
  /-- No row of either table is missing that the rules block. -/
  blocked : ∀ name ∈ systemTables, ∀ t, db.table? name = some t → ∀ row ∈ t.rows, ∀ s,
    t.Shows row s → (RuleSet.ofList rules).blocks s .transit = true → s.id ∈ ids
  ascending : ids.Pairwise (· < ·)

theorem avoidList_of_hardAvoidSystems {ids : List SystemId} (hstorable : db.Storable)
    (h : db.hardAvoidSystems (.ofList rules) = .ok ids) : db.AvoidList rules ids where
  mem_iff _ := mem_hardAvoidSystems hstorable h
  blocked name hname t ht row hrow s hs hblocked := by
    obtain ⟨rule, hmem, hhard, happlies, hcovers⟩ := RuleSet.blocks_ofList.mp hblocked
    exact (mem_hardAvoidSystems hstorable h).mpr
      ⟨rule, hmem, hhard, happlies, RuleScope.reaches_of_covers hcovers hname ht hrow hs⟩
  ascending := by
    obtain ⟨inConstellations, -, h⟩ := bind_eq_ok.mp h
    obtain ⟨inRegions, -, h⟩ := bind_eq_ok.mp h
    exact pure_eq_ok.mp h ▸ pairwise_ascending _

/-- What is asked of an oracle about a database. -/
structure KeepsAway (db : Database) : Prop where
  succeeds : db.Numbered → ∀ rules, ∃ ids, db.hardAvoidSystems rules = .ok ids
  agrees : ∀ rules ids, db.hardAvoidSystems (.ofList rules) = .ok ids → db.AvoidList rules ids
  /-- A planner that asks its oracle sends the list of the rules in force, but for the
  two ends, in ascending order. -/
  sends : ∀ (planner : Planner) (request : RouteRequest) (w : World) (call : OracleCall),
    w.database = some db → (planner.planRoute request w).2.calls = call :: w.calls →
    ∃ rows ids, db.activeRuleRows = .ok rows ∧
      db.hardAvoidSystems (.ofList (rows.filterMap RuleRow.toRule?)) = .ok ids ∧
      (∀ id, id ∈ call.avoid ↔ id ∈ ids ∧ id ≠ call.origin ∧ id ≠ call.destination) ∧
      call.avoid.Pairwise (· < ·)

/-- **What an oracle is told agrees with the rules**, in every database and for every
planner. -/
theorem keepsAway (hstorable : db.Storable) : db.KeepsAway where
  succeeds h := h.exists_hardAvoidSystems
  agrees _ _ := avoidList_of_hardAvoidSystems hstorable
  sends planner request w call hdatabase hcalls := by
    obtain hnone | ⟨p, asked, hasks, hasked⟩ := Planner.calls_planRoute planner request w
    · have hlength := congrArg List.length (hnone.symm.trans hcalls)
      simp at hlength
    · obtain ⟨rfl, -⟩ := List.cons.inj (hasked.symm.trans hcalls)
      obtain ⟨database, snapshot, hseen, hof⟩ := hasks.surveyed
      obtain ⟨hdatabase', -⟩ := Planner.survey_eq_ok (Prod.ext hseen rfl)
      obtain rfl : db = database := Option.some.inj (hdatabase.symm.trans hdatabase')
      obtain ⟨rows, hrows, hrules⟩ := hof.rules_ofList
      obtain ⟨ids, hids, hcall⟩ := bind_eq_ok.mp hasks.call_eq
      obtain rfl := pure_eq_ok.mp hcall
      rw [hof.database_eq, hrules] at hids
      refine ⟨rows, ids, hrows, hids, fun id => ?_, ?_⟩
      · simp
      · exact (avoidList_of_hardAvoidSystems hstorable hids).ascending.filter _

end Database

/-- Tables that disagree about the region of a system, with a rule on one of the two. -/
def shoalTables : Database where
  mapSystems := some
    { systemsTable with rows := [[.integer 1, .text "Ebb", .real 0, .integer 10, .integer 8]] }
  mapSystemGates := some TableName.mapSystemGates.emptyTable
  referenceSystems := some
    { systemsTable with
      rows :=
        [ [.integer 1, .text "Ebb", .real 0, .integer 10, .integer 7]
        , [.integer 2, .text "Flow", .real 0, .integer 10, .integer 7]
        , [.integer 3, .text "Slack", .real 0, .integer 10, .integer 8] ] }
  referenceRegions := some
    { TableName.referenceRegions.emptyTable with rows := [[.integer 8, .text "Pochven"]] }
  avoidRules := some
    { TableName.avoidRules.emptyTable with
      rows :=
        [ [ .integer 2, .text "region", .integer 7, .null, .integer 1, .integer 1
          , .null, .null, .null, .null, .integer 1 ] ] }

/-- Two rules on that region, of which the second alone is about passing through. -/
def shoalRules : List AvoidRule :=
  [ { id := 1, scope := .region 7, hard := true, applies := { transit := false } }
  , { id := 2, scope := .region 7, hard := true } ]

/-- A planner that has to ask for a way off the shoal. -/
def shoalPlanner : Planner where
  graph := { path := "shoal.db" }
  oracle := some fun _ _ => .ok [1, 3]

/-- A request from the first system to the third, which the graph has not. -/
def shoalRequest : RouteRequest where
  origin := .number 1 .system
  destination := .number 3 .system

/-- The first two systems are to be kept away from for what all systems say of them, but
the oracle is not told of the first, where the way begins. -/
theorem Database.keepsAway_shoal :
    (∃ ids, shoalTables.hardAvoidSystems (.ofList shoalRules) = .ok ids ∧
      shoalTables.AvoidList shoalRules ids ∧ 1 ∈ ids ∧ 2 ∈ ids) ∧
    ∃ call, (shoalPlanner.planRoute shoalRequest { database := some shoalTables }).2.calls =
      [call] ∧ 1 ∉ call.avoid ∧ 2 ∈ call.avoid := by
  have hstorable : shoalTables.Storable := by
    intro name t ht
    cases name with
    | mapSystems | mapSystemGates | referenceSystems | referenceRegions | avoidRules =>
      obtain rfl := Option.some.inj ht
      decide +kernel
    | _ => cases ht
  have hnumbered : shoalTables.Numbered := by
    intro name hname
    rcases mem_systemTables.mp hname with rfl | rfl
    all_goals
      refine ⟨_, rfl, by decide, fun row hrow => ?_⟩
      fin_cases hrow <;> exact ⟨_, rfl⟩
  have hkeeps := Database.keepsAway hstorable
  obtain ⟨ids, hids⟩ := hkeeps.succeeds hnumbered (.ofList shoalRules)
  have hlist := hkeeps.agrees shoalRules ids hids
  have hregion : ∀ (rules : List AvoidRule) (ids : List SystemId), shoalTables.AvoidList rules ids →
      HardInTransit rules (.region 7) → 1 ∈ ids ∧ 2 ∈ ids := by
    rintro rules ids hlist ⟨rule, hrule, hhard, happlies, hscope⟩
    refine ⟨(hlist.mem_iff 1).mpr ⟨rule, hrule, hhard, happlies, hscope ▸ ?_⟩,
      (hlist.mem_iff 2).mpr ⟨rule, hrule, hhard, happlies, hscope ▸ ?_⟩⟩
    · exact ⟨.referenceSystems, by decide, _, rfl, _, List.mem_cons_self, rfl, rfl⟩
    · exact ⟨.referenceSystems, by decide, _, rfl, _, List.mem_cons_of_mem _ List.mem_cons_self,
        rfl, rfl⟩
  refine ⟨⟨ids, hids, hlist, hregion _ _ hlist ⟨_, List.mem_cons_of_mem _ List.mem_cons_self,
    rfl, rfl, rfl⟩⟩, ?_⟩
  -- the oracle is asked once the list is made
  have hfacts : (shoalPlanner.prepared shoalRequest
      { database := some shoalTables }).1.toOption.map
        (fun p => (p.isLocal, p.origin.system.id, p.destination.system.id)) =
      some (false, 1, 3) := by
    decide +kernel
  obtain ⟨p, hprepared, hfacts⟩ := Option.map_eq_some_iff.mp hfacts
  obtain ⟨hremote, horigin, hdestination⟩ : _ ∧ _ ∧ _ := by
    simpa only [Prod.mk.injEq] using hfacts
  rw [toOption_eq_some_iff] at hprepared
  obtain ⟨avoid, havoid⟩ : ∃ ids, p.database.hardAvoidSystems p.rules = .ok ids := by
    rw [← Option.some.inj (Planner.database_of_prepared hprepared)]
    exact hnumbered.exists_hardAvoidSystems p.rules
  have hcalls := Planner.calls_of_remote rfl hprepared hremote (bind_eq_ok.mpr ⟨avoid, havoid, rfl⟩)
  obtain ⟨rows, sent, hrows, hsent, hmem, -⟩ :=
    hkeeps.sends shoalPlanner shoalRequest { database := some shoalTables } _ rfl hcalls
  have hrules : shoalTables.activeRuleRows.toOption.map (·.filterMap RuleRow.toRule?) =
      some [{ id := 2, scope := .region 7, hard := true }] := by
    decide +kernel
  rw [hrows, Except.toOption, Option.map_some, Option.some.injEq] at hrules
  rw [hrules] at hsent
  obtain ⟨-, hsecond⟩ := hregion _ _ (hkeeps.agrees _ sent hsent)
    ⟨_, List.mem_singleton_self _, rfl, rfl, rfl⟩
  refine ⟨_, hcalls, fun hfirst => ((hmem 1).mp hfirst).2.1 horigin.symm, ?_⟩
  refine (hmem 2).mpr ⟨hsecond, ?_, ?_⟩
  · simp [horigin]
  · simp [hdestination]

end StarFreight
