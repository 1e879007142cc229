import StarFreight.Proofs.Store.Naming
import StarFreight.Proofs.Table.Number
/-!
# Store — the numbers of a union

The systems of a group are gathered from both tables of systems at once. Of
cells that hold the same the union keeps the last, and the reader takes integers
alone; so what is read are the numbers of the rows that meet the condition
(`mem_systemIdsWhere`). A number that stands there as an integer is lost only
with the whole list, whether or not others go by real numbers.
-/

namespace StarFreight

/-- A database whose tables keep no cell that could not be stored. -/
def Database.Storable (db : Database) : Prop :=
  ∀ name t, db.table? name = some t → ∀ row ∈ t.rows, ∀ cell ∈ row, cell.Storable

theorem Table.storable_cellIn {t : Table} {row : Row} (h : ∀ cell ∈ row, cell.Storable)
    (column : String) : (t.cellIn row column).Storable := by
  unfold cellIn
  cases t.column? column with
  | none => trivial
  | some position =>
    simp only [cellAt, List.getD_eq_getElem?_getD]
    cases hcell : row[position]? with
    | none => trivial
    | some cell => exact h cell (List.mem_of_getElem? hcell)

namespace Database

variable {db : Database} {c : Condition} {ids : List SystemId} {cells : List Cell} {n : Int}
  {cell : Cell}

/-! ## Numbers of a union -/

/-- **An integer that is left out is there once more**, in one form or another. -/
theorem exists_isNumber_of_mem (hcells : ∀ cell ∈ cells, cell.Storable) (hcell : cell ∈ cells)
    (hn : cell.IsNumber n) : ∃ kept ∈ lastOfEach cells, kept.IsNumber n := by
  induction cells generalizing cell with
  | nil => cases hcell
  | cons a cells ih =>
    have hrest : ∀ cell ∈ cells, cell.Storable :=
      fun cell hcell => hcells cell (List.mem_cons_of_mem a hcell)
    unfold lastOfEach
    split
    · next hagain =>
      rcases List.mem_cons.mp hcell with rfl | hcell
      · -- a later one takes its place
        obtain ⟨b, hb, hsame⟩ := List.any_eq_true.mp hagain
        exact ih hrest hb (hn.of_same (hcells _ List.mem_cons_self) (hrest b hb) hsame)
      · exact ih hrest hcell hn
    · rcases List.mem_cons.mp hcell with rfl | hcell
      · exact ⟨_, List.mem_cons_self, hn⟩
      · obtain ⟨kept, hkept, hn⟩ := ih hrest hcell hn
        exact ⟨kept, List.mem_cons_of_mem a hkept, hn⟩

/-- Whether either table of systems has a row of a number with something in a column, by the
kind of that column. -/
def HasRow (db : Database) (id : SystemId) (column : String) (holds : Affinity → Cell → Bool) :
    Prop :=
  ∃ name ∈ systemTables, ∃ t, db.table? name = some t ∧ ∃ row ∈ t.rows,
    t.cellIn row "system_id" = .integer id ∧
      holds (t.affinityIn column) (t.cellIn row column) = true

/-- **The numbers that are read off both tables are those of the rows that meet the
condition.** -/
theorem mem_systemIdsWhere (hstorable : db.Storable) (h : db.systemIdsWhere c = .ok ids)
    (id : SystemId) : id ∈ ids ↔ db.HasRow id c.column c.holds := by
  obtain ⟨m, r, hm, hr, -, -, hread⟩ := systemIdsWhere_eq_ok.mp h
  have hperm := List.mergeSort_perm (lastOfEach (m.idCells c ++ r.idCells c)) fun a b => !b.lt a
  have hrow : db.HasRow id c.column c.holds ↔ .integer id ∈ m.idCells c ++ r.idCells c := by
    simp only [HasRow, Table.meets, systemTables, List.mem_append, Table.mem_idCells,
      List.exists_mem_cons_iff, List.not_mem_nil, false_and, exists_false, or_false, hm, hr,
      Option.some.injEq, exists_eq_left', and_comm]
  have hcells : ∀ cell ∈ m.idCells c ++ r.idCells c, cell.Storable := by
    intro cell hcell
    rcases List.mem_append.mp hcell with hcell | hcell
    · obtain ⟨row, hrow, -, rfl⟩ := Table.mem_idCells.mp hcell
      exact Table.storable_cellIn (hstorable _ m hm row hrow) _
    · obtain ⟨row, hrow, -, rfl⟩ := Table.mem_idCells.mp hcell
      exact Table.storable_cellIn (hstorable _ r hr row hrow) _
  rw [hrow]
  constructor
  · intro hid
    exact mem_of_mem_lastOfEach (hperm.mem_iff.mp (hread ▸ List.mem_map_of_mem hid))
  · intro hcell
    obtain ⟨kept, hkept, hn⟩ :=
      exists_isNumber_of_mem hcells hcell (show Cell.IsNumber id _ from rfl)
    obtain ⟨other, hother, rfl⟩ := List.mem_map.mp (hread ▸ hperm.mem_iff.mpr hkept)
    obtain rfl : other = id := hn
    exact hother

end Database

end StarFreight
