import Mathlib.Data.Set.List
import StarFreight.Proofs.Store.Rows
import StarFreight.Store.Policies
/-!
# Store — policies, rules and the names of systems

A policy is made from the settings, the regions and the names of systems in
either table. The numbers that a name stands for are those of the rows that have
it, and of rows with one number the last counts (`systemIdsWhere_eq_ok`). So it makes no
difference if a row comes in whose name and number a later one has as well
(`lastOfEach_insert`), and a policy stays the same as long as every name stands for
the same numbers (`policy_congr`).
-/

namespace StarFreight

/-- A condition on the name of a system, whatever kind of column that is in. -/
def Condition.onName (holds : Cell → Bool) : Condition :=
  { column := "name", holds := fun _ => holds }

/-- The cells with the numbers of the rows that meet a condition. -/
def Table.idCells (t : Table) (c : Condition) : List Cell :=
  (t.rows.filter fun row => t.meets row c).map fun row => t.cellIn row "system_id"

namespace Table

variable {t : Table} {c : Condition} {systems : List StarSystem} {cell : Cell}
  {holds : Cell → Bool} {rows : List Row}

theorem mem_idCells : cell ∈ t.idCells c ↔
    ∃ row ∈ t.rows, t.meets row c = true ∧ t.cellIn row "system_id" = cell := by
  simp only [idCells, List.mem_map, List.mem_filter, and_assoc]

theorem idCells_of_forall₂ (h : List.Forall₂ t.Shows rows systems) :
    ((rows.filter fun row => t.meets row (.onName holds)).map fun row => t.cellIn row "system_id") =
      (systems.filter fun s => holds (.text s.name)).map fun s => .integer s.id := by
  induction h with
  | nil => rfl
  | @cons row s rows systems hs _ ih =>
    have hmeets : t.meets row (.onName holds) = holds (.text s.name) := by
      rw [← hs.name]
      rfl
    rw [List.filter_cons, List.filter_cons, hmeets]
    split
    · rw [List.map_cons, List.map_cons, ih, hs.id]
    · exact ih

/-- **The numbers that go by a name are those of the systems that have it.** -/
theorem idCells_onName (h : List.Forall₂ t.Shows t.rows systems) :
    t.idCells (.onName holds) =
      (systems.filter fun s => holds (.text s.name)).map fun s => .integer s.id :=
  idCells_of_forall₂ h

end Table

namespace Database

variable {db after : Database} {c : Condition} {ids : List SystemId} {cells front rest : List Cell}
  {cell : Cell} {m r : Table}

/-! ## Numbers of a union -/

/-- Nothing is made up. -/
theorem mem_of_mem_lastOfEach (h : cell ∈ lastOfEach cells) : cell ∈ cells := by
  induction cells with
  | nil => exact h
  | cons a cells ih =>
    unfold lastOfEach at h
    split at h
    · exact List.mem_cons_of_mem a (ih h)
    · rcases List.mem_cons.mp h with rfl | h
      · exact List.mem_cons_self
      · exact List.mem_cons_of_mem a (ih h)

/-- **What is there once more later on makes no difference.** -/
theorem lastOfEach_insert (hagain : cell ∈ rest) (hsame : cell.same cell = true) :
    lastOfEach (front ++ cell :: rest) = lastOfEach (front ++ rest) := by
  induction front with
  | nil =>
    have hlater : rest.any cell.same = true := List.any_eq_true.mpr ⟨cell, hagain, hsame⟩
    rw [List.nil_append, List.nil_append, lastOfEach, if_pos hlater]
  | cons a front ih =>
    have hmem : ∀ b, b ∈ front ++ cell :: rest ↔ b ∈ front ++ rest := by
      intro b
      simp only [List.mem_append, List.mem_cons]
      exact or_congr_right (or_iff_right_of_imp fun hb => hb ▸ hagain)
    have hany : (front ++ cell :: rest).any a.same = (front ++ rest).any a.same := by
      rw [Bool.eq_iff_iff]
      simp only [List.any_eq_true, hmem]
    rw [List.cons_append, List.cons_append, lastOfEach, lastOfEach, hany, ih]

/-- What it means to read the numbers of the systems that meet a condition. -/
theorem systemIdsWhere_eq_ok : db.systemIdsWhere c = .ok ids ↔ ∃ m r,
    db.table? .mapSystems = some m ∧ db.table? .referenceSystems = some r ∧
      m.HasColumns ["system_id", c.column] ∧ r.HasColumns ["system_id", c.column] ∧
      (lastOfEach (m.idCells c ++ r.idCells c)).mergeSort (fun a b => !b.lt a) =
        ids.map .integer := by
  have hcells : ∀ t : Table, ((t.rows.filter fun row => [c].all (t.meets row)).map
      (t.record ["system_id"])).map (·.cell 0) = t.idCells c := by
    intro t
    simp [Table.idCells, Function.comp_def, Table.cell_record]
  have hcolumns : ∀ t : Table, t.HasColumns ["system_id", c.column] ↔
      t.HasColumns ["system_id"] ∧ t.HasColumns ([c].map (·.column)) := by
    intro t
    simp [Table.HasColumns]
  have hread : ∀ (column : String) (cells : List Cell),
      (cells.map fun cell => [(column, cell)]).mapM (fun record => Record.integer record 0) =
          .ok ids ↔
        cells = ids.map .integer := by
    intro column cells
    rw [mapM_eq_ok, List.forall₂_map_left_iff, ← List.forall₂_eq_eq_eq, List.forall₂_map_right_iff]
    simp only [Record.integer_eq_ok]
    rfl
  unfold systemIdsWhere selectUnion
  simp only [bind_eq_ok, require_eq_ok, hcolumns]
  constructor
  · rintro ⟨records, ⟨r, hr, m, hm, b, hb, a, ha, i, hi, h⟩, hids⟩
    obtain rfl := pure_eq_ok.mp h
    obtain ⟨hmid, hmcolumn, rfl⟩ := (Table.answer_eq_ok rfl).mp ha
    obtain ⟨hrid, hrcolumn, rfl⟩ := (Table.answer_eq_ok rfl).mp hb
    rw [hread, List.map_append, hcells, hcells] at hids
    exact ⟨m, r, hm, hr, ⟨hmid, hmcolumn⟩, ⟨hrid, hrcolumn⟩, hids⟩
  · rintro ⟨m, r, hm, hr, ⟨hmid, hmcolumn⟩, ⟨hrid, hrcolumn⟩, hids⟩
    obtain ⟨i, hi⟩ := Table.require_of_hasColumns hmid List.mem_cons_self
    refine ⟨_, ⟨r, hr, m, hm, _, (Table.answer_eq_ok rfl).mpr ⟨hrid, hrcolumn, rfl⟩, _,
      (Table.answer_eq_ok rfl).mpr ⟨hmid, hmcolumn, rfl⟩, i, hi, rfl⟩, ?_⟩
    rw [hread, List.map_append, hcells, hcells]
    exact hids

/-- Where all rows that meet a condition go by integers, their numbers can be read. -/
theorem exists_systemIdsWhere_eq_ok (hm : db.table? .mapSystems = some m)
    (hr : db.table? .referenceSystems = some r)
    (hmcolumns : m.HasColumns ["system_id", c.column])
    (hrcolumns : r.HasColumns ["system_id", c.column])
    (hcells : ∀ cell ∈ m.idCells c ++ r.idCells c, ∃ n, cell = .integer n) :
    ∃ ids, db.systemIdsWhere c = .ok ids := by
  obtain ⟨ids, hids⟩ : (lastOfEach (m.idCells c ++ r.idCells c)).mergeSort (fun a b => !b.lt a) ∈
      Set.range (List.map Cell.integer) := by
    rw [Set.range_list_map]
    intro cell hcell
    obtain ⟨n, rfl⟩ := hcells cell
      (mem_of_mem_lastOfEach ((List.mergeSort_perm _ _).mem_iff.mp hcell))
    exact ⟨n, rfl⟩
  exact ⟨ids, systemIdsWhere_eq_ok.mpr ⟨m, r, hm, hr, hmcolumns, hrcolumns, hids.symm⟩⟩

/-! ## Policies -/

/-- A database in which every name that stood for some numbers in another stands for the
same. -/
def SameNames (db after : Database) : Prop :=
  ∀ holds ids, db.systemIdsWhere (.onName holds) = .ok ids →
    after.systemIdsWhere (.onName holds) = .ok ids

theorem systemIdsByNames_congr {names : List String} (h : db.SameNames after)
    (hids : db.systemIdsByNames names = .ok ids) : after.systemIdsByNames names = .ok ids := by
  obtain ⟨_, hprobe, hids⟩ := bind_eq_ok.mp hids
  obtain ⟨found, hfound, hids⟩ := bind_eq_ok.mp hids
  obtain ⟨none, hnone, hprobe⟩ := bind_eq_ok.mp hprobe
  refine bind_eq_ok.mpr ⟨_, bind_eq_ok.mpr ⟨none, h _ _ hnone, hprobe⟩, ?_⟩
  exact bind_eq_ok.mpr
    ⟨found, mapM_eq_ok.mpr ((mapM_eq_ok.mp hfound).imp fun _ _ => h _ _), hids⟩

/-- **A policy stays the same as long as settings and regions do, and every name stands
for the same numbers.** -/
theorem policy_congr {policy : Policy} (h : db.SameNames after)
    (hregions : after.table? .referenceRegions = db.table? .referenceRegions)
    (hsettings : after.table? .engineSettings = db.table? .engineSettings)
    (hpolicy : db.policy = .ok policy) : after.policy = .ok policy := by
  have hdocument : after.policyDocument = db.policyDocument := by
    have hstored : after.engineSettings = db.engineSettings := hsettings
    have hselect : ∀ query : Query, query.source = .engineSettings →
        after.select query = db.select query := by
      intro query hquery
      exact select_congr (hquery ▸ hsettings)
    simp only [policyDocument, setting?, settingText?, hstored, hselect]
  have hnames : ∀ names, after.regionIdsByNames names = db.regionIdsByNames names := by
    intro names
    have hselect : ∀ query : Query, query.source = .referenceRegions →
        after.select query = db.select query := by
      intro query hquery
      exact select_congr (hquery ▸ hregions)
    simp only [regionIdsByNames, hselect]
  obtain ⟨doc, hdoc, hpolicy⟩ := bind_eq_ok.mp hpolicy
  obtain ⟨zones, hzones, hpolicy⟩ := bind_eq_ok.mp hpolicy
  refine bind_eq_ok.mpr ⟨doc, hdocument ▸ hdoc, bind_eq_ok.mpr ⟨zones, ?_, hpolicy⟩⟩
  refine mapM_eq_ok.mpr ((mapM_eq_ok.mp hzones).imp fun zone resolved hzone => ?_)
  obtain ⟨systems, hsystems, hzone⟩ := bind_eq_ok.mp hzone
  refine bind_eq_ok.mpr ⟨systems, systemIdsByNames_congr h hsystems, ?_⟩
  rw [hnames]
  exact hzone

/-- The rules depend on their table. -/
theorem rules_congr (h : after.table? .avoidRules = db.table? .avoidRules) :
    after.rules = db.rules := by
  have hstored : after.avoidRules = db.avoidRules := h
  have hselect : ∀ query : Query, query.source = .avoidRules →
      after.select query = db.select query := by
    intro query hquery
    exact select_congr (hquery ▸ h)
  simp only [rules, activeRuleRows, hstored, hselect]

end Database

end StarFreight
