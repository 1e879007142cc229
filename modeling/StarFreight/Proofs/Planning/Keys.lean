import StarFreight.Proofs.Chart.Loading
import StarFreight.Proofs.Planning.Patch
/-!
# Planning — what the keys say

The planner's own tables go by their keys: the number of a system, the two ends of a gate.
So what is read of such a table can be told by its keys. A system is found among all
systems under a number when there is a row of that key (`known_iff`), and the graph that is
loaded has the systems and the connections whose keys are there (`contains_iff`,
`mem_neighbours_iff`).

A table holds its rows as it keeps them (`Table.Stocked`): each is what the table would make
of it, and no two share a key. Then the row that the graph keeps of a system is
the row that it was copied from (`rowOfKey_iff_of_referenceSystem?`).
-/

namespace StarFreight

namespace Table

/-- A table with rows as a table keeps them. -/
structure Stocked (t : Table) : Prop where
  /-- What the table would make of a row is that row. -/
  accepted : ∀ row ∈ t.rows, t.accept row = .ok row
  /-- No two rows share a key. -/
  keyed : ∀ row ∈ t.rows, ∀ other ∈ t.rows,
    keySame (t.keyOf row) (t.keyOf other) = true → row = other

variable {t : Table} {name : TableName} {row other : Row} {s : StarSystem} {id a b : SystemId}
  {gate : SystemId × SystemId}

theorem eq_map_cellAt (row : Row) : row = (List.range row.length).map (cellAt row) := by
  refine List.ext_getElem (by simp) fun i hi _ => ?_
  simp [cellAt, hi]

namespace Own

/-- A system's row has its cells in the order of their columns. -/
theorem cellIn_system (h : t.Own name) (hname : name ∈ systemTables) {column : String} {i : Nat}
    (hi : systemColumns[i]? = some column) : t.cellIn row column = cellAt row i := by
  have hpositions : ∀ entry ∈ systemColumns.zipIdx,
      systemsTable.column? entry.1 = some entry.2 := by
    decide +kernel
  refine h.cellIn_eq ?_ row
  rw [emptyTable_of_mem_systemTables hname]
  exact hpositions (column, i) (List.mem_zipIdx_iff_getElem?.mpr hi)

/-- A gate's row has its cells in the order of their columns. -/
theorem cellIn_gate (h : t.Own .mapSystemGates) {column : String} {i : Nat}
    (hi : gateColumns[i]? = some column) : t.cellIn row column = cellAt row i := by
  have hpositions : ∀ entry ∈ gateColumns.zipIdx,
      TableName.mapSystemGates.emptyTable.column? entry.1 = some entry.2 := by
    decide +kernel
  exact h.cellIn_eq (hpositions (column, i) (List.mem_zipIdx_iff_getElem?.mpr hi)) row

/-- The row that is kept of a system shows it, but for the sign of a zero. -/
theorem shows_systemRow (h : t.Own name) (hname : name ∈ systemTables) (s : StarSystem) :
    t.Shows (Database.systemRow s) { s with security := s.security + 0 } where
  id := h.cellIn_system hname (i := 0) rfl
  name := h.cellIn_system hname (i := 1) rfl
  security := congrArg Cell.real? (h.cellIn_system hname (i := 2) rfl)
  constellation := h.cellIn_system hname (i := 3) rfl
  region := h.cellIn_system hname (i := 4) rfl

/-- The row that is kept of a gate shows it. -/
theorem joins_gateRow (h : t.Own .mapSystemGates) (gate : SystemId × SystemId) :
    t.Joins (Database.gateRow gate) gate where
  source := h.cellIn_gate (i := 0) rfl
  target := h.cellIn_gate (i := 1) rfl

/-- The key of a row is the number of the system that it shows. -/
theorem keySame_of_shows (h : t.Own name) (hname : name ∈ systemTables) (hshows : t.Shows row s) :
    keySame (t.keyOf row) [.integer id] = true ↔ s.id = id := by
  have hnumber : cellAt row 0 = .integer s.id := (h.cellIn_system hname rfl).symm.trans hshows.id
  obtain _ | ⟨first, rest⟩ := row
  · cases hnumber
  · obtain rfl : first = .integer s.id := hnumber
    rw [keyOf, h.keyWidth, emptyTable_of_mem_systemTables hname]
    exact keySame_integer

/-- The key of a row is the gate that it shows. -/
theorem keySame_of_joins (h : t.Own .mapSystemGates) (hjoins : t.Joins row gate) :
    keySame (t.keyOf row) [.integer a, .integer b] = true ↔ gate = (a, b) := by
  have hsource : cellAt row 0 = .integer gate.1 := (h.cellIn_gate rfl).symm.trans hjoins.source
  have htarget : cellAt row 1 = .integer gate.2 := (h.cellIn_gate rfl).symm.trans hjoins.target
  obtain _ | ⟨first, _ | ⟨second, rest⟩⟩ := row
  · cases hsource
  · cases htarget
  · obtain rfl : first = .integer gate.1 := hsource
    obtain rfl : second = .integer gate.2 := htarget
    have hkey : t.keyOf (.integer gate.1 :: .integer gate.2 :: rest) =
        [.integer gate.1, .integer gate.2] := by
      rw [keyOf, h.keyWidth]
      rfl
    rw [hkey, keySame_integers, Prod.ext_iff]

/-- Rows of one number are the same row. -/
theorem eq_of_keySame (h : t.Own name) (hname : name ∈ systemTables) (hstock : t.Stocked)
    (hrow : row ∈ t.rows) (hother : other ∈ t.rows)
    (hkey : keySame (t.keyOf row) [.integer id] = true)
    (hkey' : keySame (t.keyOf other) [.integer id] = true) : row = other := by
  have hempty := emptyTable_of_mem_systemTables hname
  have hwidth : t.keyWidth = 1 := h.keyWidth.trans (hempty ▸ rfl)
  obtain ⟨n, rest, rfl⟩ := h.numbered (hempty ▸ by decide) row hrow
  obtain ⟨m, rest', rfl⟩ := h.numbered (hempty ▸ by decide) other hother
  refine hstock.keyed _ hrow _ hother ?_
  simp only [keyOf, hwidth, List.take_succ_cons, List.take_zero] at hkey hkey' ⊢
  rw [keySame_integer] at hkey hkey' ⊢
  exact hkey.trans hkey'.symm

/-- The real number in a row that is kept as it is is kept as it is. -/
theorem security_of_accept (h : t.Own name) (hname : name ∈ systemTables)
    (hnumbered : t.numbered row = .ok row) (haccept : t.accept row = .ok row)
    (hshows : t.Shows row s) : cellAt row 2 = .real (s.security + 0) := by
  have hcolumn : t.columns[2]? =
      some { name := "security", affinity := .real, required := true } := by
    rw [h.columns, emptyTable_of_mem_systemTables hname]
    rfl
  have hreal := hshows.security
  rw [h.cellIn_system hname (i := 2) rfl] at hreal
  cases hvalue : row[2]? with
  | none =>
    simp only [cellAt, List.getD_eq_getElem?_getD, hvalue] at hreal
    cases hreal
  | some value =>
    have hkept : cellAt row 2 = value := by
      rw [cellAt, List.getD_eq_getElem?_getD, hvalue, Option.getD_some]
    have hstored := cellAt_of_accept hnumbered haccept hcolumn hvalue
    rw [hkept] at hreal hstored ⊢
    cases value with
    | real x =>
      obtain rfl := Option.some.inj hreal
      exact hstored
    | integer n =>
      -- an integer would have been made a real number
      cases hstored
    | null | text _ => cases hreal

/-- **A row that is kept as it is is the row of the system that it shows.** -/
theorem systemRow_eq (h : t.Own name) (hname : name ∈ systemTables) (hstock : t.Stocked)
    (hrow : row ∈ t.rows) (hshows : t.Shows row s) : Database.systemRow s = row := by
  have hempty := emptyTable_of_mem_systemTables hname
  have hnumbered : t.numbered row = .ok row := by
    obtain ⟨n, rest, rfl⟩ := h.numbered (hempty ▸ by decide) row hrow
    exact numbered_of_integer rfl
  have haccept := hstock.accepted row hrow
  have hid : cellAt row 0 = .integer s.id := (h.cellIn_system hname rfl).symm.trans hshows.id
  have hlabel : cellAt row 1 = .text s.name := (h.cellIn_system hname rfl).symm.trans hshows.name
  have hsecurity := h.security_of_accept hname hnumbered haccept hshows
  have hgroup : cellAt row 3 = .integer s.constellation :=
    (h.cellIn_system hname rfl).symm.trans hshows.constellation
  have hregion : cellAt row 4 = .integer s.region :=
    (h.cellIn_system hname rfl).symm.trans hshows.region
  have hlength : row.length = 5 := by
    rw [(accept_eq_ok.mp haccept).1, h.columns, hempty]
    rfl
  have hcells : row = [cellAt row 0, cellAt row 1, cellAt row 2, cellAt row 3, cellAt row 4] := by
    have hall := eq_map_cellAt row
    rwa [hlength] at hall
  rw [hcells, hid, hlabel, hsecurity, hgroup, hregion, Database.systemRow]

end Own

end Table

namespace Database

variable {db after : Database} {p : Patch} {name : TableName} {t t' : Table} {key : List Cell}
  {row : Row} {s : StarSystem} {id a b : SystemId} {found : Option StarSystem}
  {systems : List StarSystem} {gates : List (SystemId × SystemId)} {g : Graph}

/-- Whether a row of a table has a key. -/
def RowOfKey (db : Database) (name : TableName) (key : List Cell) (row : Row) : Prop :=
  ∃ t, db.table? name = some t ∧ row ∈ t.rows ∧ Table.keySame (t.keyOf row) key = true

/-- A table that goes by a key has it if a row has it. -/
theorem hasKey_iff_exists_mem (ht : db.table? name = some t) (hown : t.Own name)
    (hkeyed : name.emptyTable.keyWidth ≠ 0) :
    db.HasKey name key ↔ ∃ row ∈ t.rows, Table.keySame (t.keyOf row) key = true := by
  simp only [HasKey, ht, Option.some.injEq, exists_eq_left', Table.holdsKey, hown.keyWidth,
    bne_iff_ne, ne_eq, hkeyed, not_false_eq_true, Bool.and_eq_true, List.any_eq_true, true_and]

theorem hasKey_iff_exists_row (hdb : db.Standard) (hname : name ∈ upkeepTables)
    (hkeyed : name.emptyTable.keyWidth ≠ 0) :
    db.HasKey name key ↔ ∃ row, db.RowOfKey name key row := by
  obtain ⟨t, ht, hown⟩ := hdb name hname
  simp only [hasKey_iff_exists_mem ht hown hkeyed, RowOfKey, ht, Option.some.injEq, exists_eq_left']

/-! ## Systems among all systems -/

/-- What is found under a number is shown by a row of that key. -/
theorem shows_of_referenceSystem? (hdb : db.Standard) (h : db.referenceSystem? id = .ok (some s)) :
    ∃ t, db.table? .referenceSystems = some t ∧ t.Own .referenceSystems ∧ ∃ row ∈ t.rows,
      t.Shows row s ∧ Table.keySame (t.keyOf row) [.integer id] = true := by
  obtain ⟨t, ht, hown⟩ := hdb .referenceSystems (by decide)
  obtain ⟨t', ht', row, hrow, hshows⟩ := shows_of_systemIn? h
  obtain rfl := Option.some.inj (ht.symm.trans ht')
  exact ⟨t, ht, hown, row, hrow, hshows,
    (hown.keySame_of_shows (by decide) hshows).mpr (id_of_systemIn? h)⟩

/-- Where nothing is found, no row has the key. -/
theorem not_rowOfKey_of_referenceSystem? (hdb : db.Standard)
    (h : db.referenceSystem? id = .ok none) :
    ¬ db.RowOfKey .referenceSystems [.integer id] row := by
  rintro ⟨t, ht, hrow, hkey⟩
  obtain ⟨t', ht', hown⟩ := hdb .referenceSystems (by decide)
  obtain rfl := Option.some.inj (ht.symm.trans ht')
  obtain ⟨records, hrecords, h⟩ := bind_eq_ok.mp h
  obtain ⟨t', ht', hanswer⟩ := select_eq_ok.mp hrecords
  obtain rfl := Option.some.inj (ht.symm.trans ht')
  obtain ⟨-, -, hmet⟩ := (Table.answer_eq_ok rfl).mp hanswer
  have hrecord : t.record systemColumns row ∈ records := by
    rw [hmet]
    refine List.mem_map_of_mem (List.mem_filter.mpr ⟨hrow, ?_⟩)
    simpa using (hown.keySame_system (by decide) hrow).mp hkey
  obtain _ | ⟨record, records⟩ := records
  · cases hrecord
  · obtain ⟨_, -, h⟩ := bind_eq_ok.mp h
    cases pure_eq_ok.mp h

/-- **What is found among all systems is told by the rows of the key**: that of the system
found, and no other. -/
theorem rowOfKey_iff_of_referenceSystem? (hdb : db.Standard)
    (hstock : ∀ t, db.table? .referenceSystems = some t → t.Stocked)
    (h : db.referenceSystem? id = .ok found) :
    db.RowOfKey .referenceSystems [.integer id] row ↔ ∃ s, found = some s ∧ systemRow s = row := by
  cases found with
  | none => exact iff_of_false (not_rowOfKey_of_referenceSystem? hdb h) (by simp)
  | some s =>
    obtain ⟨t, ht, hown, kept, hkept, hshows, hkey⟩ := shows_of_referenceSystem? hdb h
    have hsystem := hown.systemRow_eq (by decide) (hstock t ht) hkept hshows
    simp only [Option.some.injEq, exists_eq_left', hsystem]
    constructor
    · rintro ⟨t', ht', hrow, hkey'⟩
      obtain rfl := Option.some.inj (ht.symm.trans ht')
      exact hown.eq_of_keySame (by decide) (hstock t ht) hkept hrow hkey hkey'
    · rintro rfl
      exact ⟨t, ht, hkept, hkey⟩

/-- **A system is known when one of the two tables has its key**, as far as it can be told. -/
theorem known_iff (hdb : db.Standard) (hread : db.Readable id) :
    db.Known id ↔ db.HasSystem id ∨ db.HasKey .referenceSystems [.integer id] := by
  rw [hasKey_iff_exists_row hdb (by decide) (by decide)]
  constructor
  · refine Or.imp_right ?_
    rintro ⟨s, hs⟩
    obtain ⟨t, ht, -, row, hrow, -, hkey⟩ := shows_of_referenceSystem? hdb hs
    exact ⟨row, t, ht, hrow, hkey⟩
  · rintro (hhas | ⟨row, hrow⟩)
    · exact .inl hhas
    · refine hread.imp_right ?_
      rintro ⟨_ | s, hfound⟩
      · exact absurd hrow (not_rowOfKey_of_referenceSystem? hdb hfound)
      · exact ⟨s, hfound⟩

/-! ## The graph -/

/-- The systems that are read have the keys that are there. -/
theorem hasSystem_iff_of_systemsOf (hdb : db.Standard)
    (hsystems : db.systemsOf .mapSystems = .ok systems) :
    db.HasSystem id ↔ ∃ s ∈ systems, s.id = id := by
  obtain ⟨t, ht, hown⟩ := hdb .mapSystems (by decide)
  obtain ⟨t', ht', -, hshows⟩ := systemsOf_eq_ok.mp hsystems
  obtain rfl := Option.some.inj (ht.symm.trans ht')
  exact (hasKey_iff_exists_mem ht hown (by decide)).trans
    (exists_mem_congr hshows fun _ _ => hown.keySame_of_shows (by decide))

/-- The gates that are read have the keys that are there. -/
theorem hasGate_iff_of_gates (hdb : db.Standard) (hgates : db.gates = .ok gates) :
    db.HasGate a b ↔ (a, b) ∈ gates := by
  obtain ⟨t, ht, hown⟩ := hdb .mapSystemGates (by decide)
  obtain ⟨t', ht', -, hjoins⟩ := gates_eq_ok.mp hgates
  obtain rfl := Option.some.inj (ht.symm.trans ht')
  refine (hasKey_iff_exists_mem ht hown (by decide)).trans
    ((exists_mem_congr hjoins fun _ _ => hown.keySame_of_joins).trans ?_)
  simp

/-- **A graph has the systems whose keys are there.** -/
theorem contains_iff (hdb : db.Standard) (hg : db.graph = .ok g) :
    g.contains id = true ↔ db.HasSystem id := by
  obtain ⟨systems, gates, hsystems, -, rfl⟩ := graph_eq_ok.mp hg
  rw [Graph.contains_ofGates, hasSystem_iff_of_systemsOf hdb hsystems]

/-- **Its connections are those between two of them whose keys are there**, in either
direction. -/
theorem mem_neighbours_iff (hdb : db.Standard) (hg : db.graph = .ok g) :
    b ∈ g.neighbours a ↔
      a ≠ b ∧ db.HasSystem a ∧ db.HasSystem b ∧ (db.HasGate a b ∨ db.HasGate b a) := by
  obtain ⟨systems, gates, hsystems, hgates, rfl⟩ := graph_eq_ok.mp hg
  rw [Graph.mem_neighbours_ofGates, hasSystem_iff_of_systemsOf hdb hsystems,
    hasSystem_iff_of_systemsOf hdb hsystems, hasGate_iff_of_gates hdb hgates,
    hasGate_iff_of_gates hdb hgates]

/-- A patched table has the columns that it had. -/
theorem Patched.columns_eq (h : db.Patched p after) (hdb : db.Standard)
    (hname : name ∈ upkeepTables) (ht : db.table? name = some t)
    (ht' : after.table? name = some t') : t'.columns = t.columns := by
  obtain ⟨_, hbefore, hown⟩ := hdb name hname
  obtain rfl := Option.some.inj (ht.symm.trans hbefore)
  obtain ⟨_, hafter, hown'⟩ := h.standard name hname
  obtain rfl := Option.some.inj (ht'.symm.trans hafter)
  exact hown'.columns.trans hown.columns.symm

/-- A table that could be read can be read once it is patched, if the rows that came in can. -/
theorem Patched.exists_read {α : Type} {columns : List String} {rows : List Row}
    {read : Record → Except StoreError α} (h : db.Patched p after) (hdb : db.Standard)
    (hname : name ∈ upkeepTables) (hgains : db.Gains name rows after)
    (hnew : ∀ t : Table, t.Own name → ∀ row ∈ rows, ∃ a, read (t.record columns row) = .ok a)
    {as : List α}
    (hread : (db.select { source := name, columns } >>= fun records => records.mapM read) =
      .ok as) :
    ∃ as', (after.select { source := name, columns } >>= fun records => records.mapM read) =
      .ok as' := by
  obtain ⟨t, ht, hcolumns, has⟩ := read_eq_ok.mp hread
  obtain ⟨t₀, ht₀, hown⟩ := hdb name hname
  obtain rfl := Option.some.inj (ht.symm.trans ht₀)
  obtain ⟨_, t', hbefore, ht', hrows⟩ := hgains
  obtain rfl := Option.some.inj (ht.symm.trans hbefore)
  have hsame := h.columns_eq hdb hname ht ht'
  have hall : ∀ row ∈ t'.rows, ∃ a, read (t.record columns row) = .ok a := by
    intro row hrow
    rcases List.mem_append.mp (hrows.mem_iff.mp hrow) with hrow | hrow
    · exact hnew t hown row hrow
    · obtain ⟨a, -, ha⟩ := exists_mem_of_forall₂ has hrow
      exact ⟨a, ha⟩
  obtain ⟨as', has'⟩ := exists_forall₂ hall
  refine ⟨as', read_eq_ok.mpr ⟨t', ht', ?_, ?_⟩⟩
  · rwa [Table.hasColumns_congr hsame]
  · rwa [Table.record_congr hsame]

/-- **A graph that could be loaded can be loaded once it is patched.** -/
theorem Patched.exists_graph (h : db.Patched p after) (hdb : db.Standard)
    (hg : db.graph = .ok g) : ∃ g', after.graph = .ok g' := by
  obtain ⟨systems, gates, hsystems, hgates, -⟩ := graph_eq_ok.mp hg
  obtain ⟨systems', hsystems'⟩ := h.exists_read hdb (by decide) h.systems
    (fun t hown => List.forall_mem_map.mpr fun s _ =>
      ⟨_, Table.starSystem_record.mpr (hown.shows_systemRow (by decide) s)⟩)
    hsystems
  obtain ⟨gates', hgates'⟩ := h.exists_read hdb (by decide) h.gates
    (fun t hown => List.forall_mem_map.mpr fun gate _ =>
      ⟨gate, Table.gate_record.mpr (hown.joins_gateRow gate)⟩)
    hgates
  exact ⟨_, graph_eq_ok.mpr ⟨systems', gates', hsystems', hgates', rfl⟩⟩

end Database

end StarFreight
