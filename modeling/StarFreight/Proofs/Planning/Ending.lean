import StarFreight.Proofs.Planning.Patch
/-!
# Planning — how a backfill ends

A backfill into the planner's own tables ends in one of three ways (`Ends`): the
database is patched with what it lacked of the path, and the report tells how much
that was; or a record of it found no number left; or a system of the path cannot be
read among all systems. Each system and each step ends so (`ends_backfillSystem`,
`ends_backfillStep`), what follows takes over where one has ended (`Ends.bind`), and
so does a whole path (`ends_backfillPath`).
-/

namespace StarFreight

namespace Database

variable {db before after : Database} {prov : Provenance} {report mid report' : BackfillReport}
  {ids ids' : List SystemId} {steps steps' : List (SystemId × SystemId)} {p q patch : Patch}
  {id a b : SystemId}

/-! ## What a report tells -/

/-- What a report tells of a patch beyond what it told before: how much was added, and
which of the given systems nobody knows. -/
structure Tells (db : Database) (report : BackfillReport) (ids : List SystemId) (patch : Patch)
    (report' : BackfillReport) : Prop where
  nodes : report'.nodesInserted = report.nodesInserted + patch.systems.length
  edges : report'.edgesInserted = report.edgesInserted + patch.links.length
  skipped : ∀ id, id ∈ report'.skippedSystems ↔
    id ∈ report.skippedSystems ∨ id ∈ ids ∧ ¬ db.Known id

/-- Of known systems a report does not tell that they were skipped. -/
theorem tells_of_known (hknown : ∀ id ∈ ids, db.Known id)
    (hnodes : report'.nodesInserted = report.nodesInserted + patch.systems.length)
    (hedges : report'.edgesInserted = report.edgesInserted + patch.links.length)
    (hskipped : report'.skippedSystems = report.skippedSystems) :
    db.Tells report ids patch report' where
  nodes := hnodes
  edges := hedges
  skipped id := by
    rw [hskipped]
    exact (or_iff_left fun h => h.2 (hknown id h.1)).symm

theorem Tells.trans (h : before.Tells report ids p mid) (h' : after.Tells mid ids' q report')
    (hknown : ∀ id, after.Known id ↔ before.Known id) :
    before.Tells report (ids ++ ids') (p.append q) report' where
  nodes := by rw [h'.nodes, h.nodes, Patch.append, List.length_append, add_assoc]
  edges := by rw [h'.edges, h.edges, Patch.append, List.length_append, add_assoc]
  skipped id := by rw [h'.skipped, h.skipped, hknown, List.mem_append, or_and_right, or_assoc]

/-! ## The end of a backfill -/

/-- What a backfill of systems and steps ends in. -/
inductive Ends (db : Database) (report : BackfillReport) (ids : List SystemId)
    (steps : List (SystemId × SystemId)) : Except StoreError (Database × BackfillReport) → Prop
  /-- The database is patched. -/
  | patched {patch : Patch} {after : Database} {report' : BackfillReport}
      (hlacks : db.Lacks ids steps patch) (hpatched : db.Patched patch after)
      (htells : db.Tells report ids patch report') (hreadable : ∀ id ∈ ids, db.Readable id) :
      Ends db report ids steps (.ok (after, report'))
  /-- There are fewer numbers left than records are lacking. -/
  | exhausted {ids' : List SystemId} {steps' : List (SystemId × SystemId)} {patch : Patch}
      (hids : ids' ⊆ ids) (hsteps : steps' ⊆ steps) (hlacks : db.Lacks ids' steps' patch)
      (hfull : ¬ db.HasRoom patch.records.length) : Ends db report ids steps (.error exhausted)
  /-- A system cannot be read. -/
  | unreadable {id : SystemId} {e : StoreError} (hid : id ∈ ids) (hread : ¬ db.Readable id) :
      Ends db report ids steps (.error e)

/-- A backfill of what is there, or cannot be, ends where it began. -/
theorem ends_unchanged (hdb : db.Standard) (hhas : ∀ id ∈ ids, db.HasSystem id)
    (hgates : ∀ step ∈ steps, db.Known step.1 → db.Known step.2 →
      db.HasGate step.1 step.2 ∧ db.HasGate step.2 step.1) :
    db.Ends report ids steps (.ok (db, report)) :=
  .patched (lacks_nothing (fun id hid _ _ => hhas id hid) hgates) (.refl hdb)
    (tells_of_known (fun id hid => .inl (hhas id hid)) rfl rfl rfl)
    fun id hid => .inl (hhas id hid)

/-- **What follows takes over where a backfill has ended.** -/
theorem Ends.bind {x : Except StoreError (Database × BackfillReport)}
    {next : Database × BackfillReport → Except StoreError (Database × BackfillReport)}
    (hdb : db.Standard) (h : db.Ends report ids steps x)
    (hnext : ∀ patch after mid, db.Lacks ids steps patch → db.Patched patch after →
      db.Tells report ids patch mid → after.Ends mid ids' steps' (next (after, mid))) :
    db.Ends report (ids ++ ids') (steps ++ steps') (x >>= next) := by
  cases h with
  | @patched p after mid hlacks hpatched htells hreadable =>
    have hends := hnext p after mid hlacks hpatched htells
    change db.Ends report _ _ (next (after, mid))
    generalize next (after, mid) = out at hends
    cases hends with
    | patched hlacks' hpatched' htells' hreadable' =>
      refine .patched (hlacks.append hpatched hdb hlacks') (hpatched.trans hpatched')
        (htells.trans htells' fun id => hlacks.known_iff hpatched hdb) fun id hid => ?_
      rcases List.mem_append.mp hid with hid | hid
      · exact hreadable id hid
      · exact (hlacks.readable_iff hpatched hdb).mp (hreadable' id hid)
    | @exhausted _ _ q hids hsteps hlacks' hfull =>
      -- what was recorded so far has used up numbers of those that were left at first
      exact .exhausted
        (List.append_subset.mpr ⟨List.subset_append_left _ _,
          List.subset_append_of_subset_right _ hids⟩)
        (List.append_subset.mpr ⟨List.subset_append_left _ _,
          List.subset_append_of_subset_right _ hsteps⟩)
        (hlacks.append hpatched hdb hlacks') (hpatched.hasRoom_append.not.mpr hfull)
    | unreadable hid hread =>
      exact .unreadable (List.mem_append_right ids hid)
        ((hlacks.readable_iff hpatched hdb).not.mp hread)
  | exhausted hids hsteps hlacks hfull =>
    exact .exhausted (List.subset_append_of_subset_left _ hids)
      (List.subset_append_of_subset_left _ hsteps) hlacks hfull
  | unreadable hid hread => exact .unreadable (List.mem_append_left ids' hid) hread

/-! ## Systems -/

/-- A database was patched with what was recorded last. -/
theorem patched_of_audit {row : Row} {entry : String × String} {middle : Database}
    (hsystems : db.Gains .mapSystems (patch.systems.map systemRow) middle)
    (hgates : db.Gains .mapSystemGates (patch.gates.map gateRow) middle)
    (hothers : ∀ name, name ≠ .mapSystems → name ≠ .mapSystemGates →
      middle.table? name = db.table? name)
    (haudit : middle.Gained .backfillAudit [row] after) (hrecords : patch.records = [entry])
    (hentry : auditEntry row = some entry) (hroom : middle.HasRoom 1)
    (hused : after.lastUsed = middle.lastUsed + 1) : db.Patched patch after := by
  have hsame : middle.table? .backfillAudit = db.table? .backfillAudit :=
    hothers _ (by decide) (by decide)
  refine ⟨haudit.standard, fun name hname => ?_, hsystems.congr (haudit.others _ (by decide)),
    hgates.congr (haudit.others _ (by decide)), ⟨[row], haudit.gains.congr_left hsame, ?_⟩, ?_, ?_⟩
  · simp only [Backfilled, List.mem_cons, List.not_mem_nil, or_false, not_or] at hname
    exact (haudit.others name hname.2.2).trans (hothers name hname.1 hname.2.1)
  · rw [hrecords, List.map_singleton, List.map_singleton, hentry]
  · rw [hrecords]
    exact (hasRoom_congr hsame).mp hroom
  · rw [hrecords, ← lastUsed_congr hsame]
    exact hused

/-- **One system is added if it is lacking.** -/
theorem ends_backfillSystem (h : db.Standard) (prov : Provenance) (report : BackfillReport)
    (id : SystemId) : db.Ends report [id] [] (backfillSystem prov (db, report) id) := by
  unfold backfillSystem
  dsimp only
  rcases hasMapSystem_cases h id with ⟨hhas, hasked⟩ | ⟨hnew, hasked⟩
  · rw [hasked]
    exact ends_unchanged h (List.forall_mem_singleton.mpr hhas) nofun
  rw [hasked]
  cases hfound : db.referenceSystem? id with
  | error e =>
    refine .unreadable List.mem_cons_self ?_
    rintro (hhas | ⟨found, hsome⟩)
    · exact hnew hhas
    · cases hfound.symm.trans hsome
  | ok found =>
    have hreadable : ∀ other ∈ [id], db.Readable other :=
      List.forall_mem_singleton.mpr (.inr ⟨found, hfound⟩)
    cases found with
    | none =>
      have hunknown : ∀ other ∈ [id], ¬ db.Known other := by
        refine List.forall_mem_singleton.mpr ?_
        rintro (hhas | ⟨s, hs⟩)
        · exact hnew hhas
        · cases hfound.symm.trans hs
      refine .patched (lacks_nothing ?_ nofun) (.refl h) ⟨rfl, rfl, fun other => ?_⟩ hreadable
      · exact fun other hother s hs => absurd (.inr ⟨s, hs⟩) (hunknown other hother)
      · rw [List.mem_append]
        exact or_congr_right (and_iff_left_of_imp (hunknown other)).symm
    | some s =>
      -- what is found has the number that was looked for, so no row has its key
      obtain rfl := id_of_systemIn? hfound
      have hlacks := lacks_system hnew hfound
      obtain ⟨-, middle, hadd, hgained⟩ :=
        (addMapSystem_cases h s).resolve_left fun hhas => hnew hhas.1
      have hsame := hgained.others .backfillAudit (by decide)
      simp only [hadd, bind, Except.bind]
      rcases audit_cases hgained.standard prov "system" (Decimal.integerText s.id) (.text s.name)
        with ⟨hfull, haudit⟩ | ⟨hroom, row, after, haudit, hgained', hentry, hused⟩
      · simp only [haudit]
        exact .exhausted (List.Subset.refl _) (List.Subset.refl _) hlacks
          ((hasRoom_congr hsame).not.mp hfull)
      · simp only [haudit]
        refine .patched hlacks (patched_of_audit hgained.gains ?_ ?_ hgained' rfl hentry hroom
          hused) (tells_of_known ?_ rfl rfl rfl) hreadable
        · exact gains_nil h (by decide) (hgained.others _ (by decide))
        · exact fun name hname _ => hgained.others name hname
        · exact List.forall_mem_singleton.mpr (.inr ⟨s, hfound⟩)

/-! ## Steps -/

/-- A gate is added if it is not there. -/
theorem exists_addGate (h : db.Standard) (a b : SystemId) :
    ∃ (gates : List (SystemId × SystemId)) (after : Database),
    db.addGate a b = .ok (after, !gates.isEmpty) ∧
      db.Gained .mapSystemGates (gates.map gateRow) after ∧ gates.Nodup ∧
      ∀ c d, (c, d) ∈ gates ↔ (a, b) = (c, d) ∧ ¬ db.HasGate c d := by
  rcases addGate_cases h a b with ⟨hhas, hadd⟩ | ⟨hnew, after, hadd, hgained⟩
  · refine ⟨[], db, hadd, .refl h (by decide), .nil, fun c d => iff_of_false List.not_mem_nil ?_⟩
    rintro ⟨hsame, hnew⟩
    obtain ⟨rfl, rfl⟩ := Prod.mk.inj hsame
    exact hnew hhas
  · refine ⟨[(a, b)], after, hadd, hgained, List.nodup_singleton _, fun c d => ?_⟩
    rw [List.mem_singleton, eq_comm]
    refine iff_self_and.mpr fun hsame => ?_
    obtain ⟨rfl, rfl⟩ := Prod.mk.inj hsame
    exact hnew

/-- The gates of a step are added in the directions in which they are not there. -/
theorem exists_addGates (h : db.Standard) (a b : SystemId) :
    ∃ (gates : List (SystemId × SystemId)) (middle after : Database) (there back : Bool),
    db.addGate a b = .ok (middle, there) ∧ middle.addGate b a = .ok (after, back) ∧
      (there || back) = !gates.isEmpty ∧
      db.Gained .mapSystemGates (gates.map gateRow) after ∧ gates.Nodup ∧
      ∀ c d, (c, d) ∈ gates ↔ ((a, b) = (c, d) ∨ (a, b) = (d, c)) ∧ ¬ db.HasGate c d := by
  obtain ⟨gates, middle, hthere, hgained, hnodup, hgates⟩ := exists_addGate h a b
  obtain ⟨gates', after, hback, hgained', hnodup', hgates'⟩ :=
    exists_addGate hgained.standard b a
  have hhas : ∀ c d, middle.HasGate c d ↔ db.HasGate c d ∨ (c, d) ∈ gates :=
    fun c d => hgained.gains.hasGate_iff h hgained.standard
  refine ⟨gates ++ gates', middle, after, _, _, hthere, hback, ?_, ?_, ?_, fun c d => ?_⟩
  · cases gates <;> rfl
  · rw [List.map_append]
    exact hgained.trans hgained'
  · refine List.nodup_append'.mpr ⟨hnodup, hnodup', fun gate hgate hgate' => ?_⟩
    exact ((hgates' gate.1 gate.2).mp hgate').2 ((hhas _ _).mpr (.inr hgate))
  · have hback : (b, a) = (c, d) ↔ (a, b) = (d, c) := by
      simp only [Prod.mk.injEq, and_comm]
    rw [List.mem_append, hgates, hgates', hhas, hgates, hback]
    tauto

/-- **The gates of one step are added where they are lacking.** -/
theorem ends_backfillStep (h : db.Standard) (prov : Provenance)
    (ha : a ∈ report.skippedSystems ↔ ¬ db.Known a)
    (hb : b ∈ report.skippedSystems ↔ ¬ db.Known b) :
    db.Ends report [] [(a, b)] (backfillStep prov (db, report) (a, b)) := by
  unfold backfillStep
  dsimp only
  by_cases hskip : a ∈ report.skippedSystems ∨ b ∈ report.skippedSystems
  · rw [if_pos (by simpa using hskip)]
    refine ends_unchanged h nofun (List.forall_mem_singleton.mpr fun hknown hknown' => ?_)
    rcases hskip with hskip | hskip
    · exact absurd hknown (ha.mp hskip)
    · exact absurd hknown' (hb.mp hskip)
  rw [if_neg (by simpa using hskip)]
  obtain ⟨hknown, hknown'⟩ : db.Known a ∧ db.Known b := by
    rw [ha, hb, not_or, not_not, not_not] at hskip
    exact hskip
  obtain ⟨gates, middle, after, there, back, hthere, hback, hadded, hgained, hnodup, hgates⟩ :=
    exists_addGates h a b
  simp only [hthere, hback, bind, Except.bind]
  cases hempty : gates.isEmpty with
  | true =>
    obtain ⟨rfl, rfl⟩ : there = false ∧ back = false := by simpa [hempty] using hadded
    obtain rfl := eq_of_add_false hback
    obtain rfl := eq_of_add_false hthere
    obtain rfl := List.isEmpty_iff.mp hempty
    refine ends_unchanged h nofun (List.forall_mem_singleton.mpr fun _ _ => ⟨?_, ?_⟩)
    · exact not_not.mp fun hnew => List.not_mem_nil ((hgates a b).mpr ⟨.inl rfl, hnew⟩)
    · exact not_not.mp fun hnew => List.not_mem_nil ((hgates b a).mpr ⟨.inr rfl, hnew⟩)
  | false =>
    rw [hadded, hempty]
    have hlacks := lacks_gates hknown hknown' hgates hnodup (List.isEmpty_eq_false_iff.mp hempty)
    have hsame := hgained.others .backfillAudit (by decide)
    rcases audit_cases hgained.standard prov "gate"
        (Decimal.integerText (min a b) ++ "-" ++ Decimal.integerText (max a b)) .null
      with ⟨hfull, haudit⟩ | ⟨hroom, row, last, haudit, hgained', hentry, hused⟩
    · simp only [haudit]
      exact .exhausted (List.Subset.refl _) (List.Subset.refl _) hlacks
        ((hasRoom_congr hsame).not.mp hfull)
    · simp only [haudit]
      refine .patched hlacks (patched_of_audit ?_ hgained.gains ?_ hgained' ?_ hentry hroom hused)
        (tells_of_known nofun rfl rfl rfl) nofun
      · exact gains_nil h (by decide) (hgained.others _ (by decide))
      · exact fun name _ hname => hgained.others name hname
      · exact congrArg List.singleton (Patch.linkEntry_between a b)

/-! ## Paths -/

/-- The steps of a path, and the report of the systems before them. -/
theorem ends_backfillSteps (hdb : db.Standard) (prov : Provenance)
    (ids : List SystemId) (hskipped : ∀ id ∈ ids, id ∈ report.skippedSystems ↔ ¬ db.Known id)
    (hsteps : ∀ step ∈ steps, step.1 ∈ ids ∧ step.2 ∈ ids) :
    db.Ends report [] steps (steps.foldlM (backfillStep prov) (db, report)) := by
  induction steps generalizing db report with
  | nil => exact ends_unchanged hdb nofun nofun
  | cons step steps ih =>
    obtain ⟨hfirst, hsecond⟩ := hsteps step List.mem_cons_self
    rw [List.foldlM_cons]
    refine (ends_backfillStep hdb prov (hskipped _ hfirst) (hskipped _ hsecond)).bind hdb
      fun patch after mid hlacks hpatched htells => ?_
    refine ih hpatched.standard (fun id hid => ?_) fun other hother =>
      hsteps other (List.mem_cons_of_mem step hother)
    rw [htells.skipped, hlacks.known_iff hpatched hdb, ← hskipped id hid]
    simp

theorem ends_backfillSystems (hdb : db.Standard) (prov : Provenance) (report : BackfillReport)
    (ids : List SystemId) :
    db.Ends report ids [] (ids.foldlM (backfillSystem prov) (db, report)) := by
  induction ids generalizing db report with
  | nil => exact ends_unchanged hdb nofun nofun
  | cons id ids ih =>
    rw [List.foldlM_cons]
    exact (ends_backfillSystem hdb prov report id).bind hdb fun patch after mid _ hpatched _ =>
      ih hpatched.standard mid

/-- **How a backfill of a path ends.** -/
theorem ends_backfillPath (hdb : db.Standard) (prov : Provenance) (path : List SystemId) :
    db.Ends {} path (path.zip path.tail) (db.backfillPath prov path) := by
  have hends : db.Ends {} (path ++ []) ([] ++ path.zip path.tail) (db.backfillPath prov path) := by
    refine (ends_backfillSystems hdb prov {} path).bind hdb
      fun patch after mid hlacks hpatched htells => ?_
    refine ends_backfillSteps hpatched.standard prov path (fun id hid => ?_) fun step hstep => ?_
    · rw [htells.skipped, hlacks.known_iff hpatched hdb]
      simp [hid]
    · obtain ⟨hfirst, hsecond⟩ := List.of_mem_zip hstep
      exact ⟨hfirst, List.mem_of_mem_tail hsecond⟩
  rwa [List.append_nil, List.nil_append] at hends

end Database

end StarFreight
