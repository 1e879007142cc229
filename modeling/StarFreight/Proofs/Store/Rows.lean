import StarFreight.Proofs.Store.Lookup
import StarFreight.Proofs.Store.Writes
/-!
# Store — what rows show

A query for some columns answers with the records of the rows that meet its
conditions (`answer_eq_ok_iff`). So what the store reads off a table is said by row:
the systems and gates that rows show (`systemsOf_eq_ok`, `gates_eq_ok`), and the
row that a look-up by number comes upon (`shows_of_systemIn?`).
-/

namespace StarFreight

namespace Table

variable {t : Table} {row : Row} {query : Query} {columns : List String} {records : List Record}
  {name : String} {i : Nat} {wanted : List Nat}

/-- The cell of a row in the column with a name; nothing where there is no such
column. -/
def cellIn (t : Table) (row : Row) (name : String) : Cell :=
  match t.column? name with
  | some position => cellAt row position
  | none => .null

/-- The affinity of the column with a name. -/
def affinityIn (t : Table) (name : String) : Affinity :=
  ((t.column? name).map t.affinityAt).getD .untyped

/-- Whether a row meets a condition on the column with a name. -/
def meets (t : Table) (row : Row) (c : Condition) : Bool :=
  c.holds (t.affinityIn c.column) (t.cellIn row c.column)

/-- The field of a row in the column with a name. -/
def fieldIn (t : Table) (row : Row) (name : String) : String × Cell :=
  match t.column? name with
  | some position => t.fieldAt row position
  | none => ("", .null)

/-- What a row has in some columns. -/
def record (t : Table) (columns : List String) (row : Row) : Record :=
  columns.map (t.fieldIn row)

/-- Whether a table has all of some columns. -/
def HasColumns (t : Table) (columns : List String) : Prop :=
  ∀ name ∈ columns, (t.column? name).isSome = true

instance : Decidable (t.HasColumns columns) :=
  inferInstanceAs (Decidable (∀ name ∈ columns, (t.column? name).isSome = true))

theorem cell_record (h : columns[i]? = some name) :
    (t.record columns row).cell i = t.cellIn row name := by
  simp only [Record.cell, record, List.getElem?_map, h, Option.map_some, Option.getD_some, fieldIn,
    cellIn]
  cases t.column? name <;> rfl

/-- Columns that are found are there, and their fields are those of a record. -/
theorem of_mapM_require (h : columns.mapM t.require = .ok wanted) :
    t.HasColumns columns ∧ ∀ row, wanted.map (t.fieldAt row) = t.record columns row := by
  replace h := mapM_eq_ok.mp h
  induction h with
  | nil => exact ⟨nofun, fun _ => rfl⟩
  | @cons name position columns wanted hposition _ ih =>
    obtain ⟨hcolumns, hrecord⟩ := ih
    have hposition := require_eq_ok.mp hposition
    refine ⟨fun other hother => ?_, fun row => ?_⟩
    · rcases List.mem_cons.mp hother with rfl | hother
      · rw [hposition]
        rfl
      · exact hcolumns other hother
    · rw [List.map_cons, hrecord, record, record, List.map_cons, fieldIn, hposition]

/-- Conditions on columns that are found are conditions on their cells. -/
theorem of_mapM_conditions {conditions : List Condition} {tests : List (Nat × (Cell → Bool))}
    (h : conditions.mapM (fun c => do
      let position ← t.require c.column
      return (position, c.holds (t.affinityAt position))) = .ok tests) :
    t.HasColumns (conditions.map (·.column)) ∧ ∀ row,
      (tests.all fun (position, holds) => holds (cellAt row position)) =
        conditions.all (t.meets row) := by
  replace h := mapM_eq_ok.mp h
  induction h with
  | nil => exact ⟨nofun, fun _ => rfl⟩
  | @cons c test conditions tests htest _ ih =>
    obtain ⟨hcolumns, hall⟩ := ih
    obtain ⟨position, hposition, htest⟩ := bind_eq_ok.mp htest
    obtain rfl := pure_eq_ok.mp htest
    have hposition := require_eq_ok.mp hposition
    refine ⟨fun other hother => ?_, fun row => ?_⟩
    · rcases List.mem_cons.mp hother with rfl | hother
      · rw [hposition]
        rfl
      · exact hcolumns other hother
    · rw [List.all_cons, hall, List.all_cons, meets, affinityIn, cellIn, hposition]
      rfl

theorem require_of_hasColumns (h : t.HasColumns columns) (hname : name ∈ columns) :
    ∃ position, t.require name = .ok position := by
  obtain ⟨position, hposition⟩ := Option.isSome_iff_exists.mp (h name hname)
  exact ⟨position, require_eq_ok.mpr hposition⟩

/-- Rows that are to be sorted by nothing keep their order. -/
theorem sortRows_nil (rows : List Row) : sortRows [] rows = rows :=
  List.mergeSort_of_pairwise (List.pairwise_of_forall fun _ _ => rfl)

/-- Columns that are required are had exactly when they are there. -/
theorem mapM_require_eq_ok : columns.mapM t.require = .ok wanted ↔
    t.HasColumns columns ∧ wanted = columns.filterMap t.column? := by
  constructor
  · intro h
    refine ⟨(of_mapM_require h).1, ?_⟩
    replace h := mapM_eq_ok.mp h
    induction h with
    | nil => rfl
    | cons hposition _ ih => rw [List.filterMap_cons_some (require_eq_ok.mp hposition), ih]
  · rintro ⟨hcolumns, rfl⟩
    exact mapM_eq_ok.mpr ((forall₂_filterMap hcolumns).imp fun _ _ => require_eq_ok.mpr)

/-- **What it means to answer a query**: a table has the columns asked for, and gives
what they have in the rows that meet the conditions, sorted as is asked. -/
theorem answer_eq_ok_iff : t.answer query = .ok records ↔
    t.HasColumns query.columns ∧ t.HasColumns (query.conditions.map (·.column)) ∧
      t.HasColumns query.order ∧
      records = (sortRows (query.order.filterMap t.column?) (t.rows.filter fun row =>
        query.conditions.all (t.meets row))).map
          (t.record query.columns) := by
  unfold answer
  constructor
  · intro h
    obtain ⟨wanted, hwanted, h⟩ := bind_eq_ok.mp h
    obtain ⟨tests, htests, h⟩ := bind_eq_ok.mp h
    obtain ⟨order, hsorted, h⟩ := bind_eq_ok.mp h
    obtain rfl := pure_eq_ok.mp h
    obtain ⟨hcolumns, hrecord⟩ := of_mapM_require hwanted
    obtain ⟨hconditions, hall⟩ := of_mapM_conditions htests
    obtain ⟨horder, rfl⟩ := mapM_require_eq_ok.mp hsorted
    exact ⟨hcolumns, hconditions, horder, by simp only [hall, hrecord]⟩
  · rintro ⟨hcolumns, hconditions, horder, rfl⟩
    obtain ⟨wanted, hwanted⟩ := exists_mapM_eq_ok fun name hname =>
      require_of_hasColumns hcolumns hname
    obtain ⟨tests, htests⟩ := exists_mapM_eq_ok
      (f := fun c : Condition => do
        let position ← t.require c.column
        return (position, c.holds (t.affinityAt position))) fun c hc => by
          obtain ⟨position, hposition⟩ :=
            require_of_hasColumns hconditions (List.mem_map_of_mem hc)
          exact ⟨_, bind_eq_ok.mpr ⟨position, hposition, rfl⟩⟩
    obtain ⟨-, hrecord⟩ := of_mapM_require hwanted
    obtain ⟨-, hall⟩ := of_mapM_conditions htests
    refine bind_eq_ok.mpr ⟨wanted, hwanted, bind_eq_ok.mpr ⟨tests, htests, ?_⟩⟩
    refine bind_eq_ok.mpr ⟨_, mapM_require_eq_ok.mpr ⟨horder, rfl⟩, pure_eq_ok.mpr ?_⟩
    simp only [hall, hrecord]

/-- An answer that is not sorted leaves the rows in their order. -/
theorem answer_eq_ok (horder : query.order = []) : t.answer query = .ok records ↔
    t.HasColumns query.columns ∧ t.HasColumns (query.conditions.map (·.column)) ∧
      records = (t.rows.filter fun row => query.conditions.all (t.meets row)).map
        (t.record query.columns) := by
  have hnone : t.HasColumns [] := nofun
  rw [answer_eq_ok_iff, horder, List.filterMap_nil, sortRows_nil]
  simp only [hnone, true_and]

end Table

/-! ## Systems and gates -/

/-- The tables of systems, in the order in which they are looked at. -/
def systemTables : List TableName :=
  [.mapSystems, .referenceSystems]

theorem mem_systemTables {name : TableName} :
    name ∈ systemTables ↔ name = .mapSystems ∨ name = .referenceSystems :=
  List.mem_pair

/-- Both tables of systems are made alike. -/
theorem emptyTable_of_mem_systemTables {name : TableName} (h : name ∈ systemTables) :
    name.emptyTable = systemsTable := by
  rcases mem_systemTables.mp h with rfl | rfl <;> rfl

/-- The real number in a cell; an integer is one too. -/
def Cell.real? : Cell → Option Float
  | .real x => some x
  | .integer n => some (Float.ofInt n)
  | _ => none

/-- A row of a table that holds a system. -/
structure Table.Shows (t : Table) (row : Row) (s : StarSystem) : Prop where
  id : t.cellIn row "system_id" = .integer s.id
  name : t.cellIn row "name" = .text s.name
  security : (t.cellIn row "security").real? = some s.security
  constellation : t.cellIn row "constellation_id" = .integer s.constellation
  region : t.cellIn row "region_id" = .integer s.region

/-- A row shows one system. -/
theorem Table.Shows.unique {t : Table} {row : Row} {a b : StarSystem} (ha : t.Shows row a)
    (hb : t.Shows row b) : a = b := by
  obtain ⟨id, name, security, constellation, region⟩ := a
  obtain ⟨id', name', security', constellation', region'⟩ := b
  obtain rfl : id = id' := Cell.integer.inj (ha.id.symm.trans hb.id)
  obtain rfl : name = name' := Cell.text.inj (ha.name.symm.trans hb.name)
  obtain rfl : security = security' := Option.some.inj (ha.security.symm.trans hb.security)
  obtain rfl : constellation = constellation' :=
    Cell.integer.inj (ha.constellation.symm.trans hb.constellation)
  obtain rfl : region = region' := Cell.integer.inj (ha.region.symm.trans hb.region)
  rfl

/-- A row of a table that holds a gate. -/
structure Table.Joins (t : Table) (row : Row) (gate : SystemId × SystemId) : Prop where
  source : t.cellIn row "from_system_id" = .integer gate.1
  target : t.cellIn row "to_system_id" = .integer gate.2

/-- A row joins two systems. -/
theorem Table.Joins.unique {t : Table} {row : Row} {a b : SystemId × SystemId}
    (ha : t.Joins row a) (hb : t.Joins row b) : a = b :=
  Prod.ext (Cell.integer.inj (ha.source.symm.trans hb.source))
    (Cell.integer.inj (ha.target.symm.trans hb.target))

namespace Record

variable {record : Record} {i : Nat} {n : Int} {x : Float} {text : String} {s : StarSystem}

theorem integer_eq_ok : record.integer i = .ok n ↔ record.cell i = .integer n := by
  unfold integer
  cases record.cell i <;> simp

theorem text_eq_ok : record.text i = .ok text ↔ record.cell i = .text text := by
  unfold Record.text
  cases record.cell i <;> simp

theorem real_eq_ok : record.real i = .ok x ↔ (record.cell i).real? = some x := by
  unfold real
  cases record.cell i <;> simp [Cell.real?]

theorem starSystem_eq_ok : record.starSystem = .ok s ↔
    record.integer 0 = .ok s.id ∧ record.text 1 = .ok s.name ∧ record.real 2 = .ok s.security ∧
      record.integer 3 = .ok s.constellation ∧ record.integer 4 = .ok s.region := by
  unfold starSystem
  simp only [bind_eq_ok]
  constructor
  · rintro ⟨id, hid, name, hname, security, hsecurity, group, hgroup, region, hregion, h⟩
    obtain rfl := pure_eq_ok.mp h
    exact ⟨hid, hname, hsecurity, hgroup, hregion⟩
  · rintro ⟨hid, hname, hsecurity, hgroup, hregion⟩
    exact ⟨_, hid, _, hname, _, hsecurity, _, hgroup, _, hregion, rfl⟩

end Record

namespace Table

variable {t : Table} {row : Row} {s : StarSystem} {gate : SystemId × SystemId}

theorem starSystem_record :
    (t.record systemColumns row).starSystem = .ok s ↔ t.Shows row s := by
  have hcell : ∀ i name, systemColumns[i]? = some name →
      (t.record systemColumns row).cell i = t.cellIn row name :=
    fun _ _ => cell_record
  rw [Record.starSystem_eq_ok, Record.integer_eq_ok, Record.text_eq_ok, Record.real_eq_ok,
    Record.integer_eq_ok, Record.integer_eq_ok, hcell 0 _ rfl, hcell 1 _ rfl, hcell 2 _ rfl,
    hcell 3 _ rfl, hcell 4 _ rfl]
  exact ⟨fun ⟨hid, hname, hsecurity, hgroup, hregion⟩ =>
      ⟨hid, hname, hsecurity, hgroup, hregion⟩,
    fun h => ⟨h.id, h.name, h.security, h.constellation, h.region⟩⟩

theorem gate_record : (t.record gateColumns row).gate = .ok gate ↔ t.Joins row gate := by
  have hcell : ∀ i name, gateColumns[i]? = some name →
      (t.record gateColumns row).cell i = t.cellIn row name :=
    fun _ _ => cell_record
  have hread : (t.record gateColumns row).gate = .ok gate ↔
      (t.record gateColumns row).integer 0 = .ok gate.1 ∧
        (t.record gateColumns row).integer 1 = .ok gate.2 := by
    unfold Record.gate
    simp only [bind_eq_ok]
    constructor
    · rintro ⟨a, ha, b, hb, h⟩
      obtain rfl := pure_eq_ok.mp h
      exact ⟨ha, hb⟩
    · rintro ⟨ha, hb⟩
      exact ⟨_, ha, _, hb, rfl⟩
  rw [hread, Record.integer_eq_ok, Record.integer_eq_ok, hcell 0 _ rfl, hcell 1 _ rfl]
  exact ⟨fun ⟨ha, hb⟩ => ⟨ha, hb⟩, fun h => ⟨h.source, h.target⟩⟩

/-! ## Tables with the same columns -/

section Columns

variable {after : Table} (h : after.columns = t.columns)

include h

theorem column?_congr : after.column? = t.column? := by
  funext name
  rw [column?, column?, h]

theorem hasColumns_congr : after.HasColumns = t.HasColumns := by
  funext columns
  rw [HasColumns, HasColumns, column?_congr h]

theorem cellIn_congr : after.cellIn = t.cellIn := by
  funext row name
  rw [cellIn, cellIn, column?_congr h]

theorem meets_congr : after.meets = t.meets := by
  funext row c
  have haffinity : after.affinityAt = t.affinityAt := by
    funext position
    rw [affinityAt, affinityAt, h]
  rw [meets, meets, affinityIn, affinityIn, column?_congr h, cellIn_congr h, haffinity]

theorem record_congr : after.record = t.record := by
  funext columns row
  have hfield : after.fieldAt = t.fieldAt := by
    funext row position
    rw [fieldAt, fieldAt, h]
  refine List.map_congr_left fun name _ => ?_
  rw [fieldIn, fieldIn, column?_congr h, hfield]

end Columns

end Table

namespace Database

variable {db after : Database} {name : TableName} {systems : List StarSystem}
  {gates : List (SystemId × SystemId)} {id : SystemId} {s : StarSystem}

theorem select_eq_ok {query : Query} {records : List Record} : db.select query = .ok records ↔
    ∃ t, db.table? query.source = some t ∧ t.answer query = .ok records := by
  simp only [select, bind_eq_ok, require_eq_ok]

/-- What is read of every row of a table, in some columns. -/
theorem read_eq_ok {α : Type} {columns : List String} {read : Record → Except StoreError α}
    {as : List α} :
    (db.select { source := name, columns } >>= fun records => records.mapM read) = .ok as ↔
      ∃ t, db.table? name = some t ∧ t.HasColumns columns ∧
        List.Forall₂ (fun row a => read (t.record columns row) = .ok a) t.rows as := by
  simp only [bind_eq_ok, select_eq_ok, mapM_eq_ok]
  constructor
  · rintro ⟨records, ⟨t, ht, hanswer⟩, hread⟩
    obtain ⟨hcolumns, -, rfl⟩ := (Table.answer_eq_ok rfl).mp hanswer
    refine ⟨t, ht, hcolumns, ?_⟩
    simpa using hread
  · rintro ⟨t, ht, hcolumns, hread⟩
    refine ⟨_, ⟨t, ht, (Table.answer_eq_ok rfl).mpr ⟨hcolumns, nofun, rfl⟩⟩, ?_⟩
    simpa using hread

/-- **A table of systems holds what its rows show.** -/
theorem systemsOf_eq_ok : db.systemsOf name = .ok systems ↔ ∃ t, db.table? name = some t ∧
    t.HasColumns systemColumns ∧ List.Forall₂ t.Shows t.rows systems := by
  unfold systemsOf
  simp only [read_eq_ok, Table.starSystem_record]

theorem gates_eq_ok : db.gates = .ok gates ↔ ∃ t, db.table? .mapSystemGates = some t ∧
    t.HasColumns gateColumns ∧ List.Forall₂ t.Joins t.rows gates := by
  unfold Database.gates
  simp only [read_eq_ok, Table.gate_record]

/-- What is read of a table depends on that table. -/
theorem systemsOf_congr (h : after.table? name = db.table? name) :
    after.systemsOf name = db.systemsOf name := by
  unfold systemsOf
  rw [select_congr h]

theorem gates_congr (h : after.table? .mapSystemGates = db.table? .mapSystemGates) :
    after.gates = db.gates := by
  unfold Database.gates
  rw [select_congr h]

theorem systemIn?_congr (h : after.table? name = db.table? name) :
    after.systemIn? name id = db.systemIn? name id := by
  unfold systemIn?
  rw [select_congr h]

theorem checkGraphTable_eq_ok {columns : List String} {u : Unit} :
    db.checkGraphTable name columns = .ok u ↔
      ∃ t, db.table? name = some t ∧ t.HasColumns columns := by
  unfold checkGraphTable
  cases db.table? name <;> simp [Table.HasColumns, Option.isSome_iff_ne_none]

/-- **The graph is made from the systems and the gates of its tables.** -/
theorem graph_eq_ok {g : Graph} : db.graph = .ok g ↔ ∃ systems gates,
    db.systemsOf .mapSystems = .ok systems ∧ db.gates = .ok gates ∧
      g = .ofGates systems gates := by
  unfold graph
  simp only [bind_eq_ok, pure_eq_ok]
  constructor
  · rintro ⟨-, -, -, -, systems, hsystems, gates, hgates, rfl⟩
    exact ⟨systems, gates, hsystems, hgates, rfl⟩
  · rintro ⟨systems, gates, hsystems, hgates, rfl⟩
    obtain ⟨t, ht, hcolumns, -⟩ := systemsOf_eq_ok.mp hsystems
    obtain ⟨t', ht', hcolumns', -⟩ := gates_eq_ok.mp hgates
    exact ⟨(), checkGraphTable_eq_ok.mpr ⟨t, ht, hcolumns⟩, (),
      checkGraphTable_eq_ok.mpr ⟨t', ht', hcolumns'⟩, systems, hsystems, gates, hgates, rfl⟩

/-- A look-up by number comes upon a row that shows the system. -/
theorem shows_of_systemIn? (h : db.systemIn? name id = .ok (some s)) :
    ∃ t, db.table? name = some t ∧ ∃ row ∈ t.rows, t.Shows row s := by
  unfold systemIn? at h
  obtain ⟨records, hrecords, h⟩ := bind_eq_ok.mp h
  obtain ⟨t, ht, hanswer⟩ := select_eq_ok.mp hrecords
  obtain ⟨-, -, hmet⟩ := (Table.answer_eq_ok rfl).mp hanswer
  refine ⟨t, ht, ?_⟩
  cases records with
  | nil => cases h
  | cons record records =>
    obtain ⟨found, hfound, h⟩ := bind_eq_ok.mp h
    obtain rfl := Option.some.inj (pure_eq_ok.mp h)
    obtain ⟨row, hrow, rfl⟩ := List.mem_map.mp (hmet ▸ List.mem_cons_self)
    exact ⟨row, (List.mem_filter.mp hrow).1, Table.starSystem_record.mp hfound⟩

end Database

end StarFreight
