import StarFreight.Proofs.Store.Result
import StarFreight.Store.Query
/-!
# Store — what a write changes

A row comes into one table and changes no other (`table?_of_add`,
`table?_of_insert`). A row that is added is passed over where a row of its key is
there or a value is missing, and then nothing changes at all (`eq_of_add_false`);
otherwise it is placed among the rows that were there (`placeRow_split`). What is
read from a table depends on that table alone (`select_congr`).
-/

namespace StarFreight

namespace Table

variable {t after : Table} {values : List Cell} {row : Row} {rows : List Row} {added : Bool}

/-- A row is placed somewhere among the others, which keep their order. -/
theorem placeByKey_split (row : Row) (rows : List Row) :
    ∃ front rest, rows = front ++ rest ∧ t.placeByKey row rows = front ++ row :: rest := by
  induction rows with
  | nil => exact ⟨[], [], rfl, rfl⟩
  | cons r rows ih =>
    unfold placeByKey
    split
    · exact ⟨[], r :: rows, rfl, rfl⟩
    · obtain ⟨front, rest, hrows, hplace⟩ := ih
      exact ⟨r :: front, rest, by rw [hrows, List.cons_append], by rw [hplace, List.cons_append]⟩

/-- **A row is placed among the others, which keep their order**, in any table. -/
theorem placeRow_split (row : Row) (rows : List Row) :
    ∃ front rest, rows = front ++ rest ∧ t.placeRow row rows = front ++ row :: rest := by
  unfold placeRow
  split
  · exact ⟨rows, [], (List.append_nil rows).symm, rfl⟩
  · exact placeByKey_split row rows

/-- A table is made as it was when a row has been placed in it. -/
theorem place_spec (row : Row) (rows : List Row) :
    (t.place row rows).columns = t.columns ∧ (t.place row rows).keyWidth = t.keyWidth ∧
      (t.place row rows).numbering = t.numbering := by
  unfold place recordNumber
  split <;> exact ⟨rfl, rfl, rfl⟩

@[simp] theorem columns_place (row : Row) (rows : List Row) :
    (t.place row rows).columns = t.columns :=
  (place_spec row rows).1

@[simp] theorem keyWidth_place (row : Row) (rows : List Row) :
    (t.place row rows).keyWidth = t.keyWidth :=
  (place_spec row rows).2.1

@[simp] theorem numbering_place (row : Row) (rows : List Row) :
    (t.place row rows).numbering = t.numbering :=
  (place_spec row rows).2.2

@[simp] theorem rows_place (row : Row) (rows : List Row) :
    (t.place row rows).rows = t.placeRow row rows :=
  rfl

/-- **What it means to add a row**: a value is missing in it, or it is accepted, and
either a row of its key stands in its way or it is placed. -/
theorem add_eq_ok : t.add values = .ok (after, added) ↔
    (∃ column, t.accept values = .error (.missingValue column)) ∧ added = false ∧ after = t ∨
      ∃ row, t.accept values = .ok row ∧
        ((t.holdsKey (t.keyOf row) = true ∧ added = false ∧ after = t) ∨
          (t.holdsKey (t.keyOf row) = false ∧ added = true ∧ after = t.place row t.rows)) := by
  unfold add
  constructor
  · intro h
    split at h
    · next column hmissing =>
      obtain ⟨rfl, rfl⟩ := Prod.mk.inj (Except.ok.inj h)
      exact .inl ⟨⟨column, hmissing⟩, rfl, rfl⟩
    · cases h
    · next row hrow =>
      refine .inr ⟨row, hrow, ?_⟩
      split at h
      · next hkey =>
        obtain ⟨rfl, rfl⟩ := Prod.mk.inj (Except.ok.inj h)
        exact .inl ⟨hkey, rfl, rfl⟩
      · next hkey =>
        obtain ⟨rfl, rfl⟩ := Prod.mk.inj (Except.ok.inj h)
        exact .inr ⟨Bool.eq_false_iff.mpr hkey, rfl, rfl⟩
  · rintro (⟨⟨column, hmissing⟩, rfl, rfl⟩ | ⟨row, hrow, ⟨hkey, rfl, rfl⟩ | ⟨hkey, rfl, rfl⟩⟩)
    · rw [hmissing]
    · simp only [hrow, hkey, if_true]
    · simp only [hrow, hkey, Bool.false_eq_true, if_false]

/-- **What it means to insert a row**: it is accepted, and it is placed, for no row of
its key is there. -/
theorem insert_eq_ok : t.insert values = .ok after ↔ ∃ row, t.accept values = .ok row ∧
    t.holdsKey (t.keyOf row) = false ∧ after = t.place row t.rows := by
  unfold insert
  simp only [bind_eq_ok]
  refine exists_congr fun row => and_congr_right fun _ => ?_
  cases t.holdsKey (t.keyOf row) with
  | true => exact iff_of_false nofun nofun
  | false => exact pure_eq_ok.trans (eq_comm.trans (and_iff_right rfl).symm)

end Table

namespace Database

variable {db after : Database} {name other : TableName} {values : List (String × Cell)}
  {added : Bool} {t : Table} {query : Query}

/-- To set a table to what it is changes nothing. -/
theorem withTable_self (h : db.table? name = some t) : db.withTable name (some t) = db := by
  cases name <;> simp only [table?] at h <;> simp only [withTable, ← h]

/-- What is selected depends on the table it is selected from. -/
theorem select_congr (h : after.table? query.source = db.table? query.source) :
    after.select query = db.select query := by
  simp only [select, require, h]

theorem require_eq_ok : db.require name = .ok t ↔ db.table? name = some t := by
  unfold require
  cases db.table? name <;> simp

/-- **To add a row is to add it to its table.** -/
theorem add_eq_ok : db.add name values = .ok (after, added) ↔ ∃ t t', db.table? name = some t ∧
    t.arrange values >>= t.add = .ok (t', added) ∧ after = db.withTable name (some t') := by
  unfold add
  simp only [bind_eq_ok (x := db.require name), require_eq_ok]
  constructor
  · rintro ⟨t, ht, h⟩
    split at h
    · next t' flag hadd =>
      obtain ⟨rfl, rfl⟩ := Prod.mk.inj (pure_eq_ok.mp h)
      exact ⟨t, t', ht, hadd, rfl⟩
    · cases h
  · rintro ⟨t, t', ht, hadd, rfl⟩
    exact ⟨t, ht, by rw [hadd]; rfl⟩

/-- **What is not added changes nothing.** -/
theorem eq_of_add_false (h : db.add name values = .ok (after, false)) : after = db := by
  obtain ⟨t, t', ht, hadd, rfl⟩ := add_eq_ok.mp h
  obtain ⟨cells, -, hadd⟩ := bind_eq_ok.mp hadd
  rcases Table.add_eq_ok.mp hadd with ⟨-, -, rfl⟩ | ⟨row, -, ⟨-, -, rfl⟩ | ⟨-, hflag, -⟩⟩
  · exact withTable_self ht
  · exact withTable_self ht
  · cases hflag

/-- A row that is added changes no other table. -/
theorem table?_of_add (h : db.add name values = .ok (after, added)) (hother : other ≠ name) :
    after.table? other = db.table? other := by
  obtain ⟨t, t', -, -, rfl⟩ := add_eq_ok.mp h
  exact table?_withTable_of_ne db (some t') hother

/-- A row that is inserted changes no other table. -/
theorem table?_of_insert (h : db.insert name values = .ok after) (hother : other ≠ name) :
    after.table? other = db.table? other := by
  unfold insert at h
  obtain ⟨t, -, h⟩ := bind_eq_ok.mp h
  split at h
  · next t' _ =>
    obtain rfl := pure_eq_ok.mp h
    exact table?_withTable_of_ne db (some t') hother
  · cases h

end Database

end StarFreight
