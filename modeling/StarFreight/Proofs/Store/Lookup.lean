import StarFreight.Proofs.Store.Result
import StarFreight.Store.Systems
/-!
# Store — what a query finds

A record of an answer holds the wanted cells of one row that meets every
condition of the query (`exists_row_of_mem_answer`). So a system that is looked
up by number has that number, whether a table gives it (`id_of_systemIn?`) or
the graph does (`id_of_knownSystem?`).
-/

namespace StarFreight

namespace Table

variable {t : Table} {name : String} {position : Nat} {query : Query} {records : List Record}
  {record : Record}

theorem require_eq_ok : t.require name = .ok position ↔ t.column? name = some position := by
  unfold require
  cases t.column? name <;> simp

theorem cell_map_fieldAt (row : Row) (wanted : List Nat) (i : Nat)
    (h : wanted[i]? = some position) :
    Record.cell (wanted.map (t.fieldAt row)) i = cellAt row position := by
  simp [Record.cell, h, fieldAt]

/-- **A record of an answer holds the cells of a row** in the wanted columns, and the
row meets every condition. -/
theorem exists_row_of_mem_answer (h : t.answer query = .ok records) (hmem : record ∈ records) :
    ∃ row ∈ t.rows,
      (∀ i column, query.columns[i]? = some column →
        ∃ position, t.column? column = some position ∧ record.cell i = cellAt row position) ∧
      ∀ condition ∈ query.conditions, ∃ position, t.column? condition.column = some position ∧
        condition.holds (t.affinityAt position) (cellAt row position) = true := by
  unfold answer at h
  obtain ⟨wanted, hwanted, h⟩ := bind_eq_ok.mp h
  obtain ⟨tests, htests, h⟩ := bind_eq_ok.mp h
  obtain ⟨order, -, h⟩ := bind_eq_ok.mp h
  obtain rfl := pure_eq_ok.mp h
  obtain ⟨row, hrow, rfl⟩ := List.mem_map.mp hmem
  obtain ⟨hrow, hmet⟩ := List.mem_filter.mp ((List.mergeSort_perm _ _).mem_iff.mp hrow)
  refine ⟨row, hrow, fun i column hi => ?_, fun condition hcondition => ?_⟩
  · obtain ⟨position, hposition, hcolumn⟩ := getElem?_of_forall₂ (mapM_eq_ok.mp hwanted) hi
    exact ⟨position, require_eq_ok.mp hcolumn, cell_map_fieldAt row wanted i hposition⟩
  · -- the condition is one of the tests that the row passed
    obtain ⟨i, hi⟩ := List.getElem?_of_mem hcondition
    obtain ⟨⟨position, holds⟩, htest, hcolumn⟩ :=
      getElem?_of_forall₂ (mapM_eq_ok.mp htests) hi
    obtain ⟨position, hposition, hcolumn⟩ := bind_eq_ok.mp hcolumn
    cases pure_eq_ok.mp hcolumn
    exact ⟨position, require_eq_ok.mp hposition,
      List.all_eq_true.mp hmet _ (List.mem_of_getElem? htest)⟩

end Table

theorem Cell.equals_integer {n m : Int} :
    (Cell.integer n).equals (.integer m) = true ↔ n = m := by
  simp only [equals, isNull, same, lt, Bool.and_eq_true, Bool.not_eq_true', decide_eq_false_iff_not,
    Bool.not_false, true_and]
  omega

/-- Integers are equal in any column when they are the same. -/
theorem Affinity.equates_integer {affinity : Affinity} {n m : Int} :
    affinity.equates (.integer n) (.integer m) = true ↔ n = m := by
  unfold equates
  rw [Bool.or_eq_true, Cell.equals_integer]
  refine or_iff_left_of_imp fun h => ?_
  cases affinity with
  | text => simp [compared, Cell.equals, Cell.same, Cell.lt] at h
  | _ => exact Cell.equals_integer.mp h

/-- A value that a column takes for itself is compared as it is. -/
theorem Affinity.equates_eq {affinity : Affinity} {value : Cell}
    (h : affinity.compared value = value) (cell : Cell) :
    affinity.equates cell value = cell.equals value := by
  rw [equates, h, Bool.or_self]

theorem Record.cell_of_integer {record : Record} {i : Nat} {n : Int}
    (h : record.integer i = .ok n) : record.cell i = .integer n := by
  unfold integer at h
  split at h
  · next hcell => rw [hcell, Except.ok.inj h]
  · cases h

/-- The number of a system is the integer in the first field of its record. -/
theorem Record.id_of_starSystem {record : Record} {s : StarSystem}
    (h : record.starSystem = .ok s) : record.cell 0 = .integer s.id := by
  unfold starSystem at h
  obtain ⟨id, hid, h⟩ := bind_eq_ok.mp h
  obtain ⟨name, -, h⟩ := bind_eq_ok.mp h
  obtain ⟨security, -, h⟩ := bind_eq_ok.mp h
  obtain ⟨constellation, -, h⟩ := bind_eq_ok.mp h
  obtain ⟨region, -, h⟩ := bind_eq_ok.mp h
  obtain rfl := pure_eq_ok.mp h
  exact cell_of_integer hid

namespace Database

variable {db : Database} {name : TableName} {id : SystemId} {s : StarSystem} {snapshot : Snapshot}

/-- A system that a table has under a number has that number. -/
theorem id_of_systemIn? (h : db.systemIn? name id = .ok (some s)) : s.id = id := by
  unfold systemIn? at h
  obtain ⟨records, hrecords, h⟩ := bind_eq_ok.mp h
  cases records with
  | nil => cases h
  | cons record records =>
    obtain ⟨found, hfound, h⟩ := bind_eq_ok.mp h
    obtain rfl := Option.some.inj (pure_eq_ok.mp h)
    obtain ⟨t, -, hanswer⟩ := bind_eq_ok.mp hrecords
    obtain ⟨row, -, hcells, hmet⟩ :=
      Table.exists_row_of_mem_answer hanswer List.mem_cons_self
    -- the cell that is read is the cell that was asked for
    obtain ⟨p, hp, hcell⟩ := hcells 0 "system_id" rfl
    obtain ⟨q, hq, hholds⟩ := hmet _ (List.mem_singleton.mpr rfl)
    obtain rfl : p = q := Option.some.inj (hp.symm.trans hq)
    rw [← hcell, Record.id_of_starSystem hfound] at hholds
    exact Affinity.equates_integer.mp hholds

theorem id_of_system? (h : db.system? id = .ok (some s)) : s.id = id := by
  unfold system? at h
  obtain ⟨found, hfound, h⟩ := bind_eq_ok.mp h
  cases found with
  | some other =>
    obtain rfl := Option.some.inj (pure_eq_ok.mp h)
    exact id_of_systemIn? hfound
  | none => exact id_of_systemIn? h

/-- **A system known under a number has that number.** -/
theorem id_of_knownSystem? (h : db.knownSystem? snapshot id = .ok (some s)) : s.id = id := by
  unfold knownSystem? at h
  split at h
  · next hs =>
    obtain rfl := Option.some.inj (Except.ok.inj h)
    exact snapshot.graph.keyed id _ hs
  · exact id_of_system? h

/-- A system of the graph is known under its number. -/
theorem knownSystem?_of_system? (h : snapshot.system? id = some s) :
    db.knownSystem? snapshot id = .ok (some s) := by
  rw [knownSystem?, h]

end Database

end StarFreight
