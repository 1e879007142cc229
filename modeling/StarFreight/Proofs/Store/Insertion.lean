import Mathlib.Data.List.Forall2
import StarFreight.Proofs.Store.Rows
/-!
# Store — what is kept of a row

A table may have been made again with other columns, other kinds of columns and another
key. Of a row that is given by columns it keeps what its columns make of the values
(`accept_eq_ok`). So it may keep a number as a text; but where it keeps a number as an
integer, that is the number given (`eq_of_cellIn_of_accept`).
-/

namespace StarFreight

/-- Whether two names stand for one column. -/
def sameColumn (a b : String) : Bool :=
  Text.asciiLower a == Text.asciiLower b

/-- The value that is given for a column. -/
def givenValue? (given : List (String × Cell)) (name : String) : Option Cell :=
  (given.find? fun field => sameColumn field.1 name).map (·.2)

/-- Where no column is named twice, a value that is given for one is found. -/
theorem givenValue?_of_mem {given : List (String × Cell)} {name : String} {value : Cell}
    (hdistinct : (given.map fun field => Text.asciiLower field.1).Nodup)
    (h : (name, value) ∈ given) : givenValue? given name = some value := by
  induction given with
  | nil => cases h
  | cons field given ih =>
    obtain ⟨hnew, hdistinct⟩ := List.nodup_cons.mp hdistinct
    rcases List.mem_cons.mp h with rfl | h
    · simp [givenValue?, sameColumn]
    · have hother : ¬ sameColumn field.1 name = true := fun hsame =>
        hnew (List.mem_map.mpr ⟨(name, value), h, (beq_iff_eq.mp hsame).symm⟩)
      rw [← ih hdistinct h, givenValue?, givenValue?]
      exact congrArg _ (List.find?_cons_of_neg hother)

theorem givenValue?_of_not_mem {given : List (String × Cell)} {name : String}
    (h : Text.asciiLower name ∉ given.map fun field => Text.asciiLower field.1) :
    givenValue? given name = none := by
  have hnone : given.find? (fun field => sameColumn field.1 name) = none :=
    List.find?_eq_none.mpr fun field hfield hsame =>
      h (List.mem_map.mpr ⟨field, hfield, beq_iff_eq.mp hsame⟩)
  rw [givenValue?, hnone, Option.map_none]

namespace Table

variable {t : Table} {given : List (String × Cell)} {values numbered : List Cell} {row : Row}
  {column : String} {i : Nat} {n m : Int} {value : Cell}

/-! ## Values -/

theorem isSome_column?_of_mem {c : Column} (h : c ∈ t.columns) :
    (t.column? c.name).isSome = true := by
  rw [column?, List.findIdx?_isSome, List.any_eq_true]
  exact ⟨c, h, beq_self_eq_true _⟩

/-- **What it means to arrange values**: they are given for columns that the table has, and
each column gets what is given for it, or its default. -/
theorem arrange_eq_ok : t.arrange given = .ok values ↔
    (∀ field ∈ given, (t.column? field.1).isSome = true) ∧
      values = t.columns.map fun column =>
        (givenValue? given column.name).getD column.default := by
  unfold arrange
  split
  · next name value hfound =>
    refine iff_of_false (fun h => by cases h) fun h => ?_
    have hmissing := List.find?_some hfound
    have hcolumn := h.1 (name, value) (List.mem_of_find?_eq_some hfound)
    rw [Option.isNone_iff_eq_none.mp hmissing] at hcolumn
    cases hcolumn
  · next hnone =>
    have hcolumns : ∀ field ∈ given, (t.column? field.1).isSome = true := by
      intro field hfield
      rw [← Option.not_isNone, Bool.not_eq_true']
      exact Bool.eq_false_iff.mpr (List.find?_eq_none.mp hnone field hfield)
    rw [and_iff_right hcolumns, Except.ok.injEq, eq_comm]
    refine Eq.congr_right (List.map_congr_left fun column _ => ?_)
    unfold givenValue? sameColumn
    cases given.find? fun field => Text.asciiLower field.1 == Text.asciiLower column.name <;> rfl

/-- **Values that are given for the last columns of a table, in their order**, are the last
values of a row; the first ones are defaults. -/
theorem arrange_eq_values (front : List Column) {rest : List Column}
    (hcolumns : t.columns = front ++ rest) (hnames : given.map (·.1) = rest.map (·.name))
    (hdistinct : (t.columns.map fun c => Text.asciiLower c.name).Nodup) :
    t.arrange given = .ok (front.map (·.default) ++ given.map (·.2)) := by
  have hlower : (given.map fun field => Text.asciiLower field.1) =
      rest.map fun c => Text.asciiLower c.name := by
    have hlower := congrArg (List.map Text.asciiLower) hnames
    rw [List.map_map, List.map_map] at hlower
    exact hlower
  rw [hcolumns, List.map_append, ← hlower] at hdistinct
  obtain ⟨-, hgiven, hdisjoint⟩ := List.nodup_append.mp hdistinct
  have hfront : ∀ c ∈ front, (givenValue? given c.name).getD c.default = c.default := by
    intro c hc
    rw [givenValue?_of_not_mem fun hmem => hdisjoint _ (List.mem_map_of_mem hc) _ hmem rfl,
      Option.getD_none]
  have hrest : (rest.map fun c => (givenValue? given c.name).getD c.default) =
      given.map (·.2) := by
    have hpairs := hnames
    rw [← List.forall₂_eq_eq_eq, List.forall₂_map_left_iff, List.forall₂_map_right_iff] at hpairs ⊢
    refine ((List.forall₂_and_left _ _).mpr ⟨fun _ => id, hpairs⟩).flip.imp ?_
    rintro c ⟨name, value⟩ ⟨hmem, rfl⟩
    rw [givenValue?_of_mem hgiven hmem, Option.getD_some]
  refine arrange_eq_ok.mpr ⟨fun field hfield => ?_, ?_⟩
  · obtain ⟨c, hc, hname⟩ := List.mem_map.mp (hnames ▸ List.mem_map_of_mem hfield)
    exact hname ▸ isSome_column?_of_mem (hcolumns ▸ List.mem_append_right front hc)
  · rw [hcolumns, List.map_append, List.map_congr_left hfront, hrest]

/-- Values with an integer for the number of their row are numbered already. -/
theorem numbered_of_integer (h : values[0]? = some (.integer n)) :
    t.numbered values = .ok values := by
  obtain ⟨value, rest⟩ | _ := values
  · cases h
  · obtain rfl := Option.some.inj h
    unfold numbered
    cases t.numbering <;> rfl

/-- **What it means to accept a row**: there are as many values as columns, and each
column keeps what it makes of its own, once they are numbered. -/
theorem accept_eq_ok : t.accept values = .ok row ↔ values.length = t.columns.length ∧
    ∃ numbered, t.numbered values = .ok numbered ∧
      List.Forall₂ (fun (entry : Column × Cell) cell => Column.accept entry.1 entry.2 = .ok cell)
        (t.columns.zip numbered) row := by
  unfold accept acceptWith
  split
  · next hlength => exact iff_of_false nofun fun h => hlength h.1
  · next hlength =>
    rw [and_iff_right (not_not.mp hlength)]
    cases t.numbered values with
    | error fault => exact iff_of_false nofun (by simp)
    | ok numbered => simp only [mapM_eq_ok, Except.ok.injEq, exists_eq_left']

/-- A column makes of a value what its affinity makes of it. -/
theorem Column.accept_eq_ok {c : Column} {cell : Cell}
    (h : Column.accept c value = .ok cell) :
    cell = c.affinity.store value := by
  unfold Column.accept at h
  dsimp only at h
  split at h
  · cases h
  · exact (Except.ok.inj h).symm

/-- A row has in a column what its affinity makes of the value there. -/
theorem cellAt_of_accept (hnumbered : t.numbered values = .ok numbered)
    (haccept : t.accept values = .ok row) {found : Column} (hi : t.columns[i]? = some found)
    (hvalue : numbered[i]? = some value) : cellAt row i = found.affinity.store value := by
  obtain ⟨-, _, hsame, hrow⟩ := accept_eq_ok.mp haccept
  obtain rfl := Except.ok.inj (hnumbered.symm.trans hsame)
  have hentry : (t.columns.zip numbered)[i]? = some (found, value) :=
    List.getElem?_zip_eq_some.mpr ⟨hi, hvalue⟩
  obtain ⟨cell, hcell, hkept⟩ := getElem?_of_forall₂ hrow hentry
  rw [← Column.accept_eq_ok hkept, cellAt, List.getD_eq_getElem?_getD, hcell, Option.getD_some]

end Table

end StarFreight
