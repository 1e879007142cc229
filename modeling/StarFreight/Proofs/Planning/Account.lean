import StarFreight.Proofs.Planning.Keys
import StarFreight.Proofs.Planning.Upkeep
/-!
# Planning — what a backfill reports

A backfill that succeeds has patched the database with what it lacked of the path, and
reports how much that was (`Ends.patched`). Here the patch is told by the rows of the
tables before and after: which rows of the table of all systems were copied, which
gates came in, and what the report has to do with them (`Account`). The graph that is
loaded next has all systems of the path that somebody knows, and its connections.
-/

namespace StarFreight

namespace Database

variable {db before after : Database} {prov : Provenance} {path ids : List SystemId}
  {steps : List (SystemId × SystemId)} {report : BackfillReport} {p : Patch} {row : Row}
  {id a b : SystemId} {g : Graph}

/-! ## Systems -/

/-- **The rows that are lacking are those of the keys that are lacking.** -/
theorem Lacks.mem_map_systemRow (h : db.Lacks ids steps p) (hdb : db.Standard)
    (hstock : ∀ t, db.table? .referenceSystems = some t → t.Stocked)
    (hreadable : ∀ id ∈ ids, db.Readable id) : row ∈ p.systems.map systemRow ↔
      ∃ id ∈ ids, ¬ db.HasSystem id ∧ db.RowOfKey .referenceSystems [.integer id] row := by
  constructor
  · intro hrow
    obtain ⟨s, hs, rfl⟩ := List.mem_map.mp hrow
    obtain ⟨hid, hnew, hfound⟩ := (h.mem_systems s).mp hs
    exact ⟨s.id, hid, hnew, (rowOfKey_iff_of_referenceSystem? hdb hstock hfound).mpr ⟨s, rfl, rfl⟩⟩
  · rintro ⟨id, hid, hnew, hrow⟩
    obtain ⟨found, hfound⟩ := (hreadable id hid).resolve_left hnew
    obtain ⟨s, rfl, rfl⟩ := (rowOfKey_iff_of_referenceSystem? hdb hstock hfound).mp hrow
    obtain rfl := id_of_systemIn? hfound
    exact List.mem_map_of_mem ((h.mem_systems s).mpr ⟨hid, hnew, hfound⟩)

theorem Lacks.nodup_map_systemRow (h : db.Lacks ids steps p) :
    (p.systems.map systemRow).Nodup := by
  refine h.nodup_systems.map_on fun s hs s' hs' hsame => h.eq_of_id_eq hs hs' ?_
  exact Cell.integer.inj (List.cons.inj hsame).1

/-- A patched graph has those of the given systems that are known. -/
theorem Lacks.hasSystem_iff_known (h : before.Lacks ids steps p) (hpatched : before.Patched p after)
    (hbefore : before.Standard) (hid : id ∈ ids) : after.HasSystem id ↔ before.Known id :=
  ⟨fun hhas => (h.known_iff hpatched hbefore).mp (.inl hhas),
    h.hasSystem_of_known hpatched hbefore hid⟩

/-! ## The account -/

/-- What a backfill of a path reports, and what it has done. -/
structure Account (before : Database) (path : List SystemId) (after : Database)
    (report : BackfillReport) : Prop where
  /-- The graph gains the rows that stand among all systems for those of the path that it
  lacked; as many as are reported. -/
  systems : ∃ rows, before.Gains .mapSystems rows after ∧ rows.Nodup ∧
    rows.length = report.nodesInserted ∧ ∀ row, row ∈ rows ↔
      ∃ id ∈ path, ¬ before.HasSystem id ∧ before.RowOfKey .referenceSystems [.integer id] row
  /-- It gains the gates, in both directions, of the steps between systems that it has now,
  unless they were there; and as many connections as are reported gain a gate. -/
  gates : ∃ (gates : List (SystemId × SystemId)) (links : List Link),
    before.Gains .mapSystemGates (gates.map gateRow) after ∧ gates.Nodup ∧
    (∀ a b, (a, b) ∈ gates ↔ ((a, b) ∈ pathSteps path ∨ (b, a) ∈ pathSteps path) ∧
      (after.HasSystem a ∧ after.HasSystem b) ∧ ¬ before.HasGate a b) ∧
    links.Nodup ∧ links.length = report.edgesInserted ∧
    ∀ link, link ∈ links ↔ ∃ gate ∈ gates, link = .between gate.1 gate.2
  /-- Besides, something is written into the table of records only. -/
  others : ∀ name, ¬ Backfilled name → after.table? name = before.table? name
  /-- Those of the path are skipped that neither table of systems has. -/
  skipped : ∀ id, id ∈ report.skippedSystems ↔
    id ∈ path ∧ ¬ before.HasSystem id ∧ ¬ before.HasKey .referenceSystems [.integer id]
  /-- If the graph could be loaded, it can be loaded again. -/
  loads : (∃ g, before.graph = .ok g) → ∃ g, after.graph = .ok g
  /-- It has then all systems of the path that were not skipped, and joins, both ways, those
  of its steps that it has. -/
  loaded : ∀ g, after.graph = .ok g →
    (∀ id ∈ path, id ∉ report.skippedSystems → g.contains id = true) ∧
    ∀ a b, (a, b) ∈ pathSteps path → a ≠ b → after.HasSystem a → after.HasSystem b →
      b ∈ g.neighbours a ∧ a ∈ g.neighbours b

/-- The ends of a step are on the path. -/
theorem mem_of_mem_pathSteps (h : (a, b) ∈ pathSteps path) : a ∈ path ∧ b ∈ path := by
  obtain ⟨ha, hb⟩ := List.of_mem_zip h
  exact ⟨ha, List.mem_of_mem_tail hb⟩

/-- **A backfill does what it reports.** -/
theorem account_backfillPath (hdb : db.Standard)
    (hstock : ∀ t, db.table? .referenceSystems = some t → t.Stocked)
    (h : db.backfillPath prov path = .ok (after, report)) : db.Account path after report := by
  have hends := ends_backfillPath hdb prov path
  rw [h] at hends
  cases hends with
  | @patched patch _ _ hlacks hpatched htells hreadable =>
    have hhas : ∀ id ∈ path, after.HasSystem id ↔ db.Known id := fun id =>
      hlacks.hasSystem_iff_known hpatched hdb
    have hskipped : ∀ id, id ∈ report.skippedSystems ↔ id ∈ path ∧ ¬ db.Known id := fun id =>
      (htells.skipped id).trans (or_iff_right List.not_mem_nil)
    constructor
    case systems =>
      refine ⟨_, hpatched.systems, hlacks.nodup_map_systemRow, ?_, fun row =>
        hlacks.mem_map_systemRow hdb hstock hreadable⟩
      rw [List.length_map, htells.nodes, Nat.zero_add]
    case gates =>
      refine ⟨patch.gates, patch.links, hpatched.gates, hlacks.nodup_gates, fun a b => ?_,
        hlacks.nodup_links, ?_, hlacks.mem_links⟩
      · rw [hlacks.mem_gates]
        refine and_congr_right fun hstep => and_congr_left fun _ => ?_
        obtain ⟨ha, hb⟩ : a ∈ path ∧ b ∈ path :=
          hstep.elim mem_of_mem_pathSteps fun hback => (mem_of_mem_pathSteps hback).symm
        rw [hhas a ha, hhas b hb]
      · rw [htells.edges, Nat.zero_add]
    case others => exact hpatched.spares
    case skipped =>
      intro id
      rw [hskipped, ← not_or]
      exact and_congr_right fun hid => not_congr (known_iff hdb (hreadable id hid))
    case loads => exact fun ⟨_, hg⟩ => hpatched.exists_graph hdb hg
    case loaded =>
      intro g hg
      refine ⟨fun id hid hkept => ?_, fun a b hstep hne ha hb => ?_⟩
      · rw [contains_iff hpatched.standard hg, hhas id hid]
        exact not_not.mp fun hunknown => hkept ((hskipped id).mpr ⟨hid, hunknown⟩)
      · obtain ⟨hfirst, hsecond⟩ := mem_of_mem_pathSteps hstep
        have hgate : after.HasGate a b := hlacks.hasGate_of_step hpatched hdb (.inl hstep)
          ((hhas a hfirst).mp ha) ((hhas b hsecond).mp hb)
        rw [mem_neighbours_iff hpatched.standard hg, mem_neighbours_iff hpatched.standard hg]
        exact ⟨⟨hne, ha, hb, .inl hgate⟩, hne.symm, hb, ha, .inr hgate⟩

theorem stocked_shoreTables :
    ∀ t, shoreTables.table? .referenceSystems = some t → t.Stocked := by
  intro t ht
  obtain rfl := Option.some.inj ht
  exact ⟨by decide +kernel, by decide +kernel⟩

/-- A path that visits systems more than once, one of them twice in a row and one that nobody
knows: two systems are added, and two connections, of which one had a gate already. -/
theorem account_backfillPath_shore :
    ∃ after, shoreTables.backfillPath ⟨oracleSource, "t"⟩ [1, 1, 2, 9, 2, 9] =
        .ok (after, ⟨2, 2, [9, 9]⟩) ∧
      shoreTables.Account [1, 1, 2, 9, 2, 9] after ⟨2, 2, [9, 9]⟩ ∧
      ∃ g, after.graph = .ok g ∧ g.contains 1 = true ∧ g.contains 2 = true := by
  have hreport : (shoreTables.backfillPath ⟨oracleSource, "t"⟩ [1, 1, 2, 9, 2, 9]).toOption.map
      (·.2) = some ⟨2, 2, [9, 9]⟩ := by
    decide +kernel
  obtain ⟨⟨after, report⟩, hsome, rfl⟩ := Option.map_eq_some_iff.mp hreport
  have hdone := toOption_eq_some_iff.mp hsome
  have haccount := account_backfillPath standard_shoreTables stocked_shoreTables hdone
  have hloads : ∃ g, shoreTables.graph = .ok g := by
    have hgraph : shoreTables.graph.toOption.isSome = true := by decide +kernel
    obtain ⟨g, hg⟩ := Option.isSome_iff_exists.mp hgraph
    exact ⟨g, toOption_eq_some_iff.mp hg⟩
  obtain ⟨g, hg⟩ := haccount.loads hloads
  obtain ⟨hcontains, -⟩ := haccount.loaded g hg
  exact ⟨after, hdone, haccount, g, hg, hcontains 1 (by decide) (by decide),
    hcontains 2 (by decide) (by decide)⟩

end Database

end StarFreight
