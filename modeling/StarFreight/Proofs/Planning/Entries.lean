import StarFreight.Proofs.Planning.Repair
import StarFreight.Proofs.Store.Insertion
/-!
# Planning — entries in the planner's own tables

What is written into tables that have the columns of the planner's own
(`Database.Standard`), whatever their rows are. There a write cannot fail for
what it is given: a system or a gate is added as it is, unless its key is there
already (`addMapSystem_cases`, `addGate_cases`), and a record comes in beside all
others under a number of its own, as long as there is one left
(`audit_cases`). Either way one row is gained, and nothing else changes
(`Gained`).
-/

namespace StarFreight

/-! ## Tables -/

namespace Table

/-- A table with the columns of the planner's own; where rows are numbered, they go by
integers. -/
structure Own (t : Table) (name : TableName) : Prop where
  columns : t.columns = name.emptyTable.columns
  keyWidth : t.keyWidth = name.emptyTable.keyWidth
  numbering : t.numbering = name.emptyTable.numbering
  numbered : name.emptyTable.numbering ≠ .none → ∀ row ∈ t.rows, ∃ n rest, row = .integer n :: rest

variable {t after : Table} {name : TableName} {given : List (String × Cell)} {row : Row}
  {values numbered key : List Cell} {rows : List Row}

namespace Own

variable (h : t.Own name)

include h

theorem arrange_eq : t.arrange given = name.emptyTable.arrange given := by
  have hcolumn : t.column? = name.emptyTable.column? := column?_congr h.columns
  rw [arrange, arrange, hcolumn, h.columns]

theorem accept_eq (hnumbered : t.numbered values = .ok numbered)
    (hlength : values.length = name.emptyTable.columns.length) :
    t.accept values =
      (name.emptyTable.columns.zip numbered).mapM fun (column, value) =>
        Column.accept column value := by
  rw [accept, acceptWith, h.columns, if_neg (not_not.mpr hlength), hnumbered]

/-- A cell is found where the planner's own table has its column. -/
theorem cellIn_eq {column : String} {i : Nat} (hcolumn : name.emptyTable.column? column = some i)
    (row : Row) : t.cellIn row column = cellAt row i := by
  rw [cellIn, column?_congr h.columns, hcolumn]

end Own

/-- A row is placed among the others. -/
theorem placeRow_perm (row : Row) (rows : List Row) :
    (t.placeRow row rows).Perm (row :: rows) := by
  obtain ⟨front, rest, hrows, hplaced⟩ := placeRow_split (t := t) row rows
  rw [hplaced, hrows]
  exact List.perm_middle

/-- A row that comes in leaves a table made as it was. -/
theorem Own.placed (h : t.Own name)
    (hrow : name.emptyTable.numbering ≠ .none → ∃ n rest, row = .integer n :: rest) :
    (t.place row t.rows).Own name where
  columns := (columns_place row t.rows).trans h.columns
  keyWidth := (keyWidth_place row t.rows).trans h.keyWidth
  numbering := (numbering_place row t.rows).trans h.numbering
  numbered hnone other hother := by
    rcases List.mem_cons.mp ((placeRow_perm row t.rows).mem_iff.mp hother) with rfl | hother
    · exact hrow hnone
    · exact h.numbered hnone other hother

/-! ## Keys -/

/-- With more rows, a key is there if it was or is one of theirs. -/
theorem holdsKey_of_perm (hwidth : after.keyWidth = t.keyWidth) (hkeyed : t.keyWidth ≠ 0)
    (hrows : after.rows.Perm (rows ++ t.rows)) : after.holdsKey key = true ↔
      t.holdsKey key = true ∨ ∃ row ∈ rows, keySame (row.take t.keyWidth) key = true := by
  simp only [holdsKey, keyOf, hwidth, bne_iff_ne, ne_eq, hkeyed, not_false_eq_true,
    Bool.and_eq_true, List.any_eq_true, hrows.mem_iff, List.mem_append, or_and_right, exists_or,
    true_and]
  exact or_comm

theorem keySame_integer {n m : Int} : keySame [.integer n] [.integer m] = true ↔ n = m := by
  simp [keySame, Cell.equals_integer]

theorem keySame_integers {n m k l : Int} :
    keySame [.integer n, .integer k] [.integer m, .integer l] = true ↔ n = m ∧ k = l := by
  simp [keySame, Cell.equals_integer]

/-- **A system's row goes by the number that it is looked up by.** -/
theorem Own.keySame_system (h : t.Own name) (hname : name ∈ systemTables) {id : SystemId}
    (hrow : row ∈ t.rows) : keySame (t.keyOf row) [.integer id] = true ↔
      t.meets row (.isInteger "system_id" id) = true := by
  have hempty := emptyTable_of_mem_systemTables hname
  have hposition : name.emptyTable.column? "system_id" = some 0 := by
    rw [hempty]
    decide +kernel
  obtain ⟨n, rest, rfl⟩ := h.numbered (hempty ▸ by decide) row hrow
  rw [meets, Condition.isInteger, h.cellIn_eq hposition, keyOf, h.keyWidth, hempty]
  exact keySame_integer.trans Affinity.equates_integer.symm

/-! ## Numbers -/

/-- The largest number that was ever given, or is in use. -/
def lastUsed (t : Table) : Int :=
  match t.numbers.max? with
  | none => max 0 t.lastNumber
  | some largest => max largest t.lastNumber

theorem le_lastUsed {n : Int} (h : n ∈ t.numbers) : n ≤ t.lastUsed := by
  obtain ⟨largest, hlargest⟩ := Option.ne_none_iff_exists'.mp
    (List.max?_eq_none_iff.not.mpr (List.ne_nil_of_mem h))
  have hle := (List.max?_eq_some_iff.mp hlargest).2 n h
  simp only [lastUsed, hlargest]
  omega

theorem lastNumber_le_lastUsed : t.lastNumber ≤ t.lastUsed := by
  unfold lastUsed
  split <;> omega

/-- Where numbers are never reused, the next one follows the last, if it can be stored. -/
theorem nextNumber?_eq (h : t.numbering = .neverReused) :
    t.nextNumber? =
      if Decimal.fitsInt64 (t.lastUsed + 1) then some (t.lastUsed + 1) else none := by
  cases hmax : t.numbers.max? with
  | none =>
    have hnext : max 1 (t.lastNumber + 1) = max 0 t.lastNumber + 1 := by omega
    simp only [nextNumber?, lastUsed, h, hmax, hnext]
  | some largest =>
    have hnext : max (largest + 1) (t.lastNumber + 1) = max largest t.lastNumber + 1 := by omega
    simp only [nextNumber?, lastUsed, h, hmax, hnext]

/-- A row with the next number makes it the last. -/
theorem lastUsed_of_gained {n : Int} {rest : List Cell}
    (hlast : after.lastNumber = max t.lastNumber n)
    (hrows : after.rows.Perm ((.integer n :: rest) :: t.rows)) (hn : n = t.lastUsed + 1) :
    after.lastUsed = n := by
  have hnumbers : after.numbers.Perm (n :: t.numbers) := hrows.filterMap _
  have hmax : after.numbers.max? = some n := by
    refine List.max?_eq_some_iff.mpr ⟨hnumbers.mem_iff.mpr List.mem_cons_self, fun m hm => ?_⟩
    rcases List.mem_cons.mp (hnumbers.mem_iff.mp hm) with rfl | hm
    · exact Int.le_refl m
    · have := le_lastUsed hm
      omega
  have hle := lastNumber_le_lastUsed (t := t)
  simp only [lastUsed, hmax, hlast]
  omega

end Table

/-! ## Databases -/

namespace Database

/-- The tables that a backfill reads and writes. -/
def upkeepTables : List TableName :=
  [.mapSystems, .mapSystemGates, .referenceSystems, .backfillAudit]

/-- A database with the planner's own tables, whatever their rows are. -/
def Standard (db : Database) : Prop :=
  ∀ name ∈ upkeepTables, ∃ t, db.table? name = some t ∧ t.Own name

/-- Whether a table has a row of a key. -/
def HasKey (db : Database) (name : TableName) (key : List Cell) : Prop :=
  ∃ t, db.table? name = some t ∧ t.holdsKey key = true

/-- From one database to another a table gained rows and kept all it had. -/
def Gains (before : Database) (name : TableName) (rows : List Row) (after : Database) : Prop :=
  ∃ t t', before.table? name = some t ∧ after.table? name = some t' ∧
    t'.rows.Perm (rows ++ t.rows)

/-- From one database to another rows came into one table, and nothing else changed. -/
structure Gained (before : Database) (name : TableName) (rows : List Row)
    (after : Database) : Prop where
  standard : after.Standard
  gains : before.Gains name rows after
  others : ∀ other ≠ name, after.table? other = before.table? other

variable {db : Database} {name : TableName} {given : List (String × Cell)} {values : List Cell}
  {row : Row} {t t' : Table}

theorem Standard.withTable (h : db.Standard) (ht : t.Own name) :
    (db.withTable name (some t)).Standard := by
  intro other hother
  by_cases hsame : other = name
  · subst hsame
    exact ⟨t, table?_withTable_self db other (some t), ht⟩
  · rw [table?_withTable_of_ne db (some t) hsame]
    exact h other hother

theorem gained_withTable (h : db.Standard) (ht : db.table? name = some t) (hown : t'.Own name)
    (hrows : t'.rows.Perm (row :: t.rows)) :
    db.Gained name [row] (db.withTable name (some t')) where
  standard := h.withTable hown
  gains := ⟨t, t', ht, table?_withTable_self db name (some t'), hrows⟩
  others _ hother := table?_withTable_of_ne db (some t') hother

/-- **A row is added as it is, unless its key is there.** -/
theorem add_cases (h : db.Standard) (hname : name ∈ upkeepTables)
    (harrange : name.emptyTable.arrange given = .ok values)
    (haccept : ∀ t : Table, t.Own name → t.accept values = .ok row)
    (hrow : name.emptyTable.numbering ≠ .none → ∃ n rest, row = .integer n :: rest) :
    db.HasKey name (row.take name.emptyTable.keyWidth) ∧ db.add name given = .ok (db, false) ∨
      ¬ db.HasKey name (row.take name.emptyTable.keyWidth) ∧
        ∃ after, db.add name given = .ok (after, true) ∧ db.Gained name [row] after := by
  obtain ⟨t, ht, hown⟩ := h name hname
  have hkey : t.keyOf row = row.take name.emptyTable.keyWidth := by
    rw [Table.keyOf, hown.keyWidth]
  have hplaced : ∀ {t' added}, t.add values = .ok (t', added) →
      db.add name given = .ok (db.withTable name (some t'), added) := by
    intro t' added hadd
    exact add_eq_ok.mpr ⟨t, t', ht, bind_eq_ok.mpr ⟨values, hown.arrange_eq.trans harrange, hadd⟩,
      rfl⟩
  cases hheld : t.holdsKey (t.keyOf row) with
  | true =>
    refine .inl ⟨⟨t, ht, hkey ▸ hheld⟩, ?_⟩
    have hadd := hplaced (Table.add_eq_ok.mpr
      (.inr ⟨row, haccept t hown, .inl ⟨hheld, rfl, rfl⟩⟩))
    rwa [withTable_self ht] at hadd
  | false =>
    refine .inr ⟨?_, _, hplaced (Table.add_eq_ok.mpr
      (.inr ⟨row, haccept t hown, .inr ⟨hheld, rfl, rfl⟩⟩)), gained_withTable h ht ?_ ?_⟩
    · rintro ⟨other, hother, hholds⟩
      obtain rfl : t = other := Option.some.inj (ht.symm.trans hother)
      rw [← hkey, hheld] at hholds
      cases hholds
    · exact hown.placed hrow
    · exact Table.placeRow_perm row t.rows

/-! ## Systems and gates -/

variable {id a b : SystemId} {s : StarSystem}

/-- The fields of a system that is added to the graph. -/
def systemFields (s : StarSystem) : List (String × Cell) :=
  [ ("system_id", .integer s.id), ("name", .text s.name), ("security", .real s.security)
  , ("constellation_id", .integer s.constellation), ("region_id", .integer s.region) ]

/-- The fields of a gate. -/
def gateFields (a b : SystemId) : List (String × Cell) :=
  [("from_system_id", .integer a), ("to_system_id", .integer b)]

/-- Whether the graph has a system. -/
def HasSystem (db : Database) (id : SystemId) : Prop :=
  db.HasKey .mapSystems [.integer id]

/-- Whether the graph has a gate in one direction. -/
def HasGate (db : Database) (a b : SystemId) : Prop :=
  db.HasKey .mapSystemGates [.integer a, .integer b]

/-- The row that the graph keeps of a system. -/
def systemRow (s : StarSystem) : Row :=
  [ .integer s.id, .text s.name, .real (s.security + 0), .integer s.constellation
  , .integer s.region ]

/-- The row that the graph keeps of a gate. -/
def gateRow (gate : SystemId × SystemId) : Row :=
  [.integer gate.1, .integer gate.2]

theorem arrange_systemFields (s : StarSystem) :
    TableName.mapSystems.emptyTable.arrange (systemFields s) =
      .ok ((systemFields s).map (·.2)) :=
  Table.arrange_eq_values [] rfl rfl (by decide +kernel)

theorem accept_systemFields (h : t.Own .mapSystems) (s : StarSystem) :
    t.accept ((systemFields s).map (·.2)) = .ok (systemRow s) := by
  rw [h.accept_eq (Table.numbered_of_integer rfl) rfl]
  rfl

theorem arrange_gateFields (a b : SystemId) :
    TableName.mapSystemGates.emptyTable.arrange (gateFields a b) =
      .ok ((gateFields a b).map (·.2)) :=
  Table.arrange_eq_values [] rfl rfl (by decide +kernel)

theorem accept_gateFields (h : t.Own .mapSystemGates) (a b : SystemId) :
    t.accept ((gateFields a b).map (·.2)) = .ok (gateRow (a, b)) := by
  rw [h.accept_eq (Table.numbered_of_integer rfl) rfl]
  rfl

theorem addMapSystem_cases (h : db.Standard) (s : StarSystem) :
    db.HasSystem s.id ∧ db.addMapSystem s = .ok (db, false) ∨
      ¬ db.HasSystem s.id ∧ ∃ after, db.addMapSystem s = .ok (after, true) ∧
        db.Gained .mapSystems [systemRow s] after :=
  add_cases h (by decide) (arrange_systemFields s) (fun _ hown => accept_systemFields hown s)
    fun _ => ⟨s.id, _, rfl⟩

theorem addGate_cases (h : db.Standard) (a b : SystemId) :
    db.HasGate a b ∧ db.addGate a b = .ok (db, false) ∨
      ¬ db.HasGate a b ∧ ∃ after, db.addGate a b = .ok (after, true) ∧
        db.Gained .mapSystemGates [gateRow (a, b)] after :=
  add_cases h (by decide) (arrange_gateFields a b) (fun _ hown => accept_gateFields hown a b)
    fun hnumbered => absurd rfl hnumbered

/-- What it means to ask whether the graph has a system. -/
theorem hasMapSystem_eq_ok {has : Bool} : db.hasMapSystem id = .ok has ↔
    ∃ t, db.table? .mapSystems = some t ∧ t.HasColumns ["system_id"] ∧
      (has = true ↔ ∃ row ∈ t.rows, t.meets row (.isInteger "system_id" id) = true) := by
  unfold hasMapSystem
  simp only [bind_eq_ok, select_eq_ok]
  constructor
  · rintro ⟨records, ⟨t, ht, hanswer⟩, h⟩
    obtain ⟨-, hcolumns, rfl⟩ := (Table.answer_eq_ok rfl).mp hanswer
    obtain rfl := pure_eq_ok.mp h
    exact ⟨t, ht, hcolumns, by simp⟩
  · rintro ⟨t, ht, hcolumns, hhas⟩
    refine ⟨_, ⟨t, ht, (Table.answer_eq_ok rfl).mpr ⟨List.forall_mem_nil _, hcolumns, rfl⟩⟩, ?_⟩
    refine pure_eq_ok.mpr (Bool.eq_iff_iff.mpr (Iff.trans ?_ hhas.symm))
    simp

/-- To see whether the graph has a system cannot fail. -/
theorem hasMapSystem_cases (h : db.Standard) (id : SystemId) :
    db.HasSystem id ∧ db.hasMapSystem id = .ok true ∨
      ¬ db.HasSystem id ∧ db.hasMapSystem id = .ok false := by
  obtain ⟨t, ht, hown⟩ := h .mapSystems (by decide)
  have hcolumns : t.HasColumns ["system_id"] := by
    rw [Table.hasColumns_congr hown.columns]
    decide +kernel
  -- the condition looks at the cell that the row goes by
  have hmet : t.holdsKey [.integer id] = true ↔
      ∃ row ∈ t.rows, t.meets row (.isInteger "system_id" id) = true := by
    rw [Table.holdsKey, hown.keyWidth]
    exact List.any_eq_true.trans (exists_congr fun row => and_congr_right fun hrow =>
      hown.keySame_system (by decide) hrow)
  have hasked : db.hasMapSystem id = .ok (t.holdsKey [.integer id]) :=
    hasMapSystem_eq_ok.mpr ⟨t, ht, hcolumns, hmet⟩
  cases hheld : t.holdsKey [.integer id] with
  | true => exact .inl ⟨⟨t, ht, hheld⟩, by rw [hasked, hheld]⟩
  | false =>
    refine .inr ⟨?_, by rw [hasked, hheld]⟩
    rintro ⟨other, hother, hholds⟩
    obtain rfl : t = other := Option.some.inj (ht.symm.trans hother)
    rw [hheld] at hholds
    cases hholds

/-! ## Records -/

/-- What a record of the audit is about: the kind of what was written, and its key. -/
def auditEntry : Row → Option (String × String)
  | _ :: .text kind :: .text key :: _ => some (kind, key)
  | _ => none

/-- Why a record does not come in: no number is left for it. -/
def exhausted : StoreError :=
  .row TableName.backfillAudit.label .numbersExhausted

/-- The largest number that a record has, or had. -/
def lastUsed (db : Database) : Int :=
  match db.table? .backfillAudit with
  | some t => t.lastUsed
  | none => 0

/-- Whether there are numbers left for so many records. -/
def HasRoom (db : Database) (n : Nat) : Prop :=
  ∀ k : Nat, 0 < k → k ≤ n → Decimal.fitsInt64 (db.lastUsed + k) = true

/-- The values of a record that is given no number. -/
def recordValues (kind key : String) (prov : Provenance) (detail : Cell) : List Cell :=
  [.null, .text kind, .text key, .text prov.source, detail, .text prov.stamp]

/-- No row has a number larger than all in use. -/
theorem holdsKey_fresh {n : Int} (h : t.Own .backfillAudit) (hfresh : t.lastUsed < n) :
    t.holdsKey [.integer n] = false := by
  have hwidth : t.keyWidth = 1 := h.keyWidth
  rw [Bool.eq_false_iff, Ne, Table.holdsKey, Bool.and_eq_true, List.any_eq_true]
  rintro ⟨-, row, hrow, hsame⟩
  obtain ⟨m, rest, rfl⟩ := h.numbered nofun row hrow
  have hused := Table.le_lastUsed (List.mem_filterMap.mpr ⟨_, hrow, rfl⟩)
  rw [Table.keyOf, hwidth] at hsame
  exact absurd (Table.keySame_integer.mp hsame) (by omega)

theorem insert_exhausted (h : t.Own .backfillAudit) (kind key : String) (prov : Provenance)
    (detail : Cell) (hfull : Decimal.fitsInt64 (t.lastUsed + 1) = false) :
    t.insert (recordValues kind key prov detail) = .error .numbersExhausted := by
  have hnext : t.nextNumber? = none := by
    rw [Table.nextNumber?_eq h.numbering, hfull]
    rfl
  have hnumbered : t.numbered (recordValues kind key prov detail) = .error .numbersExhausted := by
    have hnumbering : t.numbering = .neverReused := h.numbering
    simp only [Table.numbered, recordValues, hnumbering, hnext]
  have hlength : t.columns.length = 6 := congrArg List.length h.columns
  simp only [Table.insert, Table.accept, Table.acceptWith, hnumbered, hlength]
  rfl

/-- A record that is given a number comes in beside all others. -/
theorem insert_record (h : t.Own .backfillAudit) (kind key : String) (prov : Provenance)
    (detail : Cell) (hfits : Decimal.fitsInt64 (t.lastUsed + 1) = true) :
    ∃ row t', t.insert (recordValues kind key prov detail) = .ok t' ∧ t'.Own .backfillAudit ∧
      t'.rows.Perm (row :: t.rows) ∧ auditEntry row = some (kind, key) ∧
      t'.lastUsed = t.lastUsed + 1 := by
  have hnumbering : t.numbering = .neverReused := h.numbering
  have hnext : t.nextNumber? = some (t.lastUsed + 1) := by
    rw [Table.nextNumber?_eq hnumbering, hfits]
    rfl
  let row : Row := [ .integer (t.lastUsed + 1), .text kind, .text key, .text prov.source
                   , Affinity.text.store detail, .text prov.stamp ]
  have hnumbered : t.numbered (recordValues kind key prov detail) =
      .ok (.integer (t.lastUsed + 1) :: (recordValues kind key prov detail).tail) := by
    simp only [Table.numbered, recordValues, hnumbering, hnext, List.tail_cons]
  have haccept : t.accept (recordValues kind key prov detail) = .ok row := by
    rw [h.accept_eq hnumbered rfl]
    rfl
  have hkey : t.keyOf row = [.integer (t.lastUsed + 1)] := by
    rw [Table.keyOf, h.keyWidth]
    rfl
  have hfree : t.holdsKey (t.keyOf row) = false := hkey ▸ holdsKey_fresh h (by omega)
  have hplaced : (t.place row t.rows).rows.Perm (row :: t.rows) := Table.placeRow_perm row t.rows
  refine ⟨row, _, Table.insert_eq_ok.mpr ⟨row, haccept, hfree, rfl⟩, ?_, hplaced, rfl, ?_⟩
  · exact h.placed fun _ => ⟨_, _, rfl⟩
  · refine Table.lastUsed_of_gained ?_ hplaced rfl
    simp only [Table.place, Table.recordNumber, hnumbering, row]

theorem insert_eq (ht : db.table? name = some t) (harrange : t.arrange given = .ok values) :
    db.insert name given = match t.insert values with
      | .ok t' => .ok (db.withTable name (some t'))
      | .error fault => .error (.row name.label fault) := by
  have hinsert : t.arrange given >>= t.insert = t.insert values := by
    rw [harrange]
    rfl
  unfold insert require
  rw [ht]
  show (match t.arrange given >>= t.insert with
    | .ok t' => Except.ok (db.withTable name (some t'))
    | .error fault => .error (StoreError.row name.label fault)) = _
  rw [hinsert]

/-- **A record comes in beside all others**, unless no number is left for it. -/
theorem audit_cases (h : db.Standard) (prov : Provenance) (kind key : String) (detail : Cell) :
    ¬ db.HasRoom 1 ∧ db.audit prov kind key detail = .error exhausted ∨
      db.HasRoom 1 ∧ ∃ row after, db.audit prov kind key detail = .ok after ∧
        db.Gained .backfillAudit [row] after ∧ auditEntry row = some (kind, key) ∧
        after.lastUsed = db.lastUsed + 1 := by
  obtain ⟨t, ht, hown⟩ := h .backfillAudit (by decide)
  have hlast : db.lastUsed = t.lastUsed := by simp only [lastUsed, ht]
  have hroom : db.HasRoom 1 ↔ Decimal.fitsInt64 (t.lastUsed + 1) = true := by
    refine ⟨fun h => hlast ▸ h 1 (by decide) (Nat.le_refl 1), fun h k hpos hle => ?_⟩
    obtain rfl : k = 1 := by omega
    exact hlast ▸ h
  let given : List (String × Cell) :=
    [ ("entity_type", .text kind), ("entity_key", .text key), ("source", .text prov.source)
    , ("detail", detail), ("created_at", .text prov.stamp) ]
  have harrange : t.arrange given = .ok (recordValues kind key prov detail) := by
    rw [hown.arrange_eq]
    exact Table.arrange_eq_values [integerColumn "id"] rfl rfl (by decide +kernel)
  have haudit : db.audit prov kind key detail = db.insert .backfillAudit given := rfl
  rw [haudit, insert_eq ht harrange, hroom]
  cases hfits : Decimal.fitsInt64 (t.lastUsed + 1) with
  | false =>
    refine .inl ⟨Bool.false_ne_true, ?_⟩
    rw [insert_exhausted hown kind key prov detail hfits]
    rfl
  | true =>
    obtain ⟨row, t', hinsert, hown', hrows, hentry, hused⟩ :=
      insert_record hown kind key prov detail hfits
    refine .inr ⟨rfl, row, _, ?_, gained_withTable h ht hown' hrows, hentry, ?_⟩
    · rw [hinsert]
    · rw [hlast, ← hused, lastUsed, table?_withTable_self]

end Database

end StarFreight
