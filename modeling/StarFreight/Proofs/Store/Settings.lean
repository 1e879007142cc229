import StarFreight.Proofs.Planning.Entries
import StarFreight.Proofs.Security.Readback
import StarFreight.Store.Settings
/-!
# Store — settings are kept

What is stored under a key, in a table of settings with the planner's own columns
(`Database.KeepsSettings`), whatever its rows are. What a setting reads as depends on
the rows of its key alone (`settingText?_eq`). To store one cannot fail: it comes in
place of all rows of its key, and nothing else changes (`exists_storeSetting`). To make
the tables that are missing changes no setting and no row (`table?_initialized`).
-/

namespace StarFreight

theorem Cell.eq_text_of_equals {c : Cell} {s : String} (h : c.equals (.text s) = true) :
    c = .text s := by
  cases c with
  | null => simp [equals, isNull] at h
  | integer n => simp [equals, isNull, same, lt] at h
  | real x => simp [equals, isNull, same, lt] at h
  | text t =>
    simp only [equals, isNull, same, lt, Bool.and_eq_true, Bool.not_eq_true',
      decide_eq_false_iff_not, String.not_lt] at h
    exact congrArg Cell.text (String.le_antisymm h.2.2 h.2.1)

/-- Only a text is equal to a text, and only if it is the same one. -/
theorem Cell.equals_text {c : Cell} {s : String} : c.equals (.text s) = true ↔ c = .text s := by
  refine ⟨eq_text_of_equals, ?_⟩
  rintro rfl
  simp [equals, isNull, same, lt]

/-- Whether a row goes by a text. -/
def Row.hasKey (key : String) (row : Row) : Bool :=
  (Table.cellAt row 0).equals (.text key)

theorem Row.hasKey_iff {key : String} {row : Row} :
    row.hasKey key = true ↔ Table.cellAt row 0 = .text key :=
  Cell.equals_text

/-- A row that goes by one text goes by no other. -/
theorem Row.hasKey_of_ne {key other : String} {row : Row} (hrow : row.hasKey key = true)
    (h : other ≠ key) : row.hasKey other = false := by
  refine Bool.eq_false_iff.mpr fun hother => h ?_
  have hsame := (hasKey_iff.mp hother).symm.trans (hasKey_iff.mp hrow)
  exact Cell.text.inj hsame

theorem Table.keySame_take_one {key : String} {row : Row} :
    keySame (row.take 1) [.text key] = row.hasKey key := by
  cases row with
  | nil => rfl
  | cons c row => simp [keySame, Row.hasKey, cellAt]

namespace Table

variable {t : Table}

theorem arrange_setting (key value : String) :
    TableName.engineSettings.emptyTable.arrange [("key", .text key), ("value", .text value)] =
      .ok [.text key, .text value] :=
  arrange_eq_values [] rfl rfl (by decide +kernel)

theorem Own.column?_setting (h : t.Own .engineSettings) :
    t.column? "key" = some 0 ∧ t.column? "value" = some 1 := by
  rw [column?_congr h.columns]
  exact ⟨by decide +kernel, by decide +kernel⟩

/-- The values that are found under a key. -/
theorem Own.answer_setting (h : t.Own .engineSettings) (key : String) :
    t.answer
        { source := .engineSettings, columns := ["value"], conditions := [.isText "key" key] } =
      .ok ((t.rows.filter (Row.hasKey key)).map fun row => [("value", cellAt row 1)]) := by
  obtain ⟨hkey, hvalue⟩ := h.column?_setting
  have hname : ((t.columns[1]?).map (·.name)).getD "" = "value" := by
    rw [h.columns]
    rfl
  -- the condition of the query is to go by the key
  have hmet : ∀ row, t.meets row (.isText "key" key) = Row.hasKey key row := by
    intro row
    have haffinity : t.affinityAt 0 = .text := by
      rw [affinityAt, h.columns]
      rfl
    rw [meets, Condition.isText, affinityIn, cellIn, hkey, Option.map_some, Option.getD_some,
      haffinity]
    exact Affinity.equates_eq rfl (cellAt row 0)
  have hrecord : ∀ row, t.record ["value"] row = [("value", cellAt row 1)] := by
    intro row
    rw [record, List.map_singleton, fieldIn, hvalue]
    simp only [fieldAt, hname]
  refine (answer_eq_ok rfl).mpr ⟨?_, ?_, ?_⟩
  · intro name hname
    rw [List.mem_singleton.mp hname, hvalue]
    rfl
  · intro name hname
    rw [List.mem_singleton.mp hname]
    exact Option.isSome_of_mem hkey
  · simp only [List.all_cons, List.all_nil, Bool.and_true, hmet]
    exact List.map_congr_left fun row _ => (hrecord row).symm

/-- The row of a setting. -/
def settingRow (key value : String) : Row :=
  [.text key, .text value]

/-- Rows with that of a setting in place of all of its key: where the first of them stands,
or behind the others. -/
def setRow (key value : String) : List Row → List Row
  | [] => [settingRow key value]
  | row :: rows =>
    if row.hasKey key then settingRow key value :: rows.filter fun other => !other.hasKey key
    else row :: setRow key value rows

/-- A table with a row of settings in place of all of its key. -/
def withSetting (t : Table) (key value : String) : Table :=
  { t with rows := setRow key value t.rows }

theorem setRow_of_none {key value : String} {rows : List Row}
    (h : rows.any (Row.hasKey key) = false) :
    setRow key value rows = rows ++ [settingRow key value] := by
  induction rows with
  | nil => rfl
  | cons row rows ih =>
    obtain ⟨hrow, hrows⟩ := Bool.or_eq_false_iff.mp (List.any_cons.symm.trans h)
    rw [setRow, hrow, ih hrows]
    rfl

/-- The row of a key is changed where it stands. -/
theorem changeRow_setting {key value : String} {rows : List Row} (hwidth : t.keyWidth = 1)
    (h : rows.any (Row.hasKey key) = true) :
    t.changeRow [.text key] (fun other => merged 2 1 other (settingRow key value)) rows =
      setRow key value rows := by
  have hsame : ∀ row, keySame (t.keyOf row) [.text key] = row.hasKey key := by
    intro row
    rw [keyOf, hwidth, keySame_take_one]
  induction rows with
  | nil => cases h
  | cons row rows ih =>
    simp only [changeRow, setRow, hsame]
    cases hrow : row.hasKey key with
    | true =>
      have hmerged : merged 2 1 row (settingRow key value) = settingRow key value := by
        have hcell : row.getD 0 .null = .text key := Row.hasKey_iff.mp hrow
        simp only [merged, settingRow, List.range_succ, List.range_zero, List.nil_append,
          List.singleton_append, List.map_cons, List.map_nil, hcell]
        rfl
      simp only [if_true, hmerged]
    | false =>
      rw [List.any_cons, hrow, Bool.false_or] at h
      simp only [Bool.false_eq_true, if_false, ih h]

/-- **A setting comes in place of all rows of its key.** -/
theorem Own.upsert_setting (h : t.Own .engineSettings) (key value : String) :
    t.upsert "key" "value" (settingRow key value) = .ok (t.withSetting key value) := by
  obtain ⟨hkeyed, hvalued⟩ := h.column?_setting
  have hwidth : t.keyWidth = 1 := h.keyWidth
  have hnumbering : t.numbering = .none := h.numbering
  have hlength : t.columns.length = 2 := congrArg List.length h.columns
  have hnumbered : t.numbered (settingRow key value) = .ok (settingRow key value) := by
    simp only [Table.numbered, settingRow, hnumbering]
  have haccept : t.accept (settingRow key value) = .ok (settingRow key value) := by
    rw [h.accept_eq hnumbered rfl]
    rfl
  have hkey : t.keyOf (settingRow key value) = [.text key] := by
    rw [keyOf, hwidth]
    rfl
  have hholds : t.holdsKey [.text key] = t.rows.any (Row.hasKey key) := by
    simp only [holdsKey, keyOf, hwidth, keySame_take_one]
    rfl
  have hthere : ¬ (t.keyWidth ≠ 1 ∨ t.column? "key" ≠ some 0) :=
    not_or.mpr ⟨not_not.mpr hwidth, not_not.mpr hkeyed⟩
  simp only [upsert, hvalued, if_neg hthere, haccept, hlength]
  refine bind_eq_ok.mpr ⟨settingRow key value, rfl, ?_⟩
  simp only [hkey, hholds]
  split
  · next hheld =>
    rw [changeRow_setting hwidth hheld]
    rfl
  · next hfree =>
    refine pure_eq_ok.mpr ?_
    simp only [place, placeRow, recordNumber, hnumbering, Table.withSetting,
      setRow_of_none (Bool.eq_false_iff.mpr hfree)]

theorem Own.withSetting (h : t.Own .engineSettings) (key value : String) :
    (t.withSetting key value).Own .engineSettings :=
  ⟨h.columns, h.keyWidth, h.numbering, fun hnone => absurd rfl hnone⟩

/-- Of the key of a setting there is its row alone. -/
theorem filter_setRow_self (key value : String) (rows : List Row) :
    (setRow key value rows).filter (Row.hasKey key) = [settingRow key value] := by
  have hrow : Row.hasKey key (settingRow key value) = true := Row.hasKey_iff.mpr rfl
  induction rows with
  | nil => rw [setRow, List.filter_cons_of_pos hrow, List.filter_nil]
  | cons row rows ih =>
    unfold setRow
    split
    · have hnone : (rows.filter fun row => !Row.hasKey key row).filter (Row.hasKey key) = [] := by
        rw [List.filter_filter, List.filter_eq_nil_iff]
        simp
      rw [List.filter_cons_of_pos hrow, hnone]
    · next hother => rw [List.filter_cons_of_neg hother, ih]

/-- Of other keys there are the rows that were there. -/
theorem filter_setRow_of_ne {key other : String} (value : String) (rows : List Row)
    (h : other ≠ key) :
    (setRow key value rows).filter (Row.hasKey other) = rows.filter (Row.hasKey other) := by
  have hrow : ¬ Row.hasKey other (settingRow key value) = true :=
    Bool.not_eq_true _ ▸ Row.hasKey_of_ne (Row.hasKey_iff.mpr rfl) h
  induction rows with
  | nil => rw [setRow, List.filter_cons_of_neg hrow]
  | cons row rows ih =>
    unfold setRow
    split
    · next hkey =>
      have hsame : (rows.filter fun row => !Row.hasKey key row).filter (Row.hasKey other) =
          rows.filter (Row.hasKey other) := by
        rw [List.filter_filter]
        refine List.filter_congr fun row _ => ?_
        cases hrow : Row.hasKey key row with
        | false => simp
        | true => simp [Row.hasKey_of_ne hrow h]
      rw [List.filter_cons_of_neg hrow, hsame,
        List.filter_cons_of_neg (Bool.not_eq_true _ ▸ Row.hasKey_of_ne hkey h)]
    · rw [List.filter_cons, List.filter_cons, ih]

end Table

namespace Database

/-- A database whose table of settings, if it has one, is the planner's own. -/
def KeepsSettings (db : Database) : Prop :=
  ∀ t, db.table? .engineSettings = some t → t.Own .engineSettings

/-- The rows of settings that go by a key. -/
def settingRows (db : Database) (key : String) : List Row :=
  ((db.table? .engineSettings).elim [] Table.rows).filter (Row.hasKey key)

/-- What the first of some rows of settings holds. -/
def firstText? : List Row → Except StoreError (Option String)
  | [] => .ok none
  | row :: _ => (Record.text [("value", Table.cellAt row 1)] 0).map some

variable {db after : Database} {key other : String}

/-- **What a setting reads as depends on the rows of its key alone.** -/
theorem settingText?_eq (h : db.KeepsSettings) (key : String) :
    db.settingText? key = firstText? (db.settingRows key) := by
  unfold settingText? settingRows
  cases ht : db.table? .engineSettings with
  | none =>
    have hnone : db.engineSettings = none := ht
    rw [hnone]
    rfl
  | some t =>
    have hsome : db.engineSettings = some t := ht
    have hselect := select_eq_ok.mpr ⟨t, ht, (h t ht).answer_setting key⟩
    rw [hsome]
    dsimp only
    rw [hselect, Option.elim_some]
    cases t.rows.filter (Row.hasKey key) <;> rfl

/-! ## Updates -/

/-- From one database to another the documents that are given were stored, each under its
key; no other row changed, and tables that were missing may have been made. -/
structure Updated (before : Database) (given : String → Option Json) (after : Database) :
    Prop where
  keeps : after.KeepsSettings
  rows : ∀ key, after.settingRows key =
    match given key with
    | some doc => [[.text key, .text doc.compact]]
    | none => before.settingRows key
  tables : ∀ name ≠ .engineSettings, after.table? name = before.table? name ∨
    before.table? name = none ∧ after.table? name = some name.emptyTable

/-- A single document, under its key. -/
def single (key : String) (doc : Json) (other : String) : Option Json :=
  if other = key then some doc else none

variable {given later : String → Option Json} {last : Database}

theorem Updated.refl (h : db.KeepsSettings) : db.Updated (fun _ => none) db :=
  ⟨h, fun _ => rfl, fun _ _ => .inl rfl⟩

/-- What is stored later takes the place of what was stored before. -/
theorem Updated.trans (h : db.Updated given after) (hlater : after.Updated later last) :
    db.Updated (fun key => (later key).or (given key)) last where
  keeps := hlater.keeps
  rows key := by
    rw [hlater.rows key]
    cases later key with
    | some doc => rfl
    | none => exact h.rows key
  tables name hname := by
    -- a table that was made the first time is there the second time
    rcases hlater.tables name hname with hsame | ⟨hnone, hmade⟩
    · rw [hsame]
      exact h.tables name hname
    · rcases h.tables name hname with hsame | ⟨-, hmade'⟩
      · exact .inr ⟨hsame.symm.trans hnone, hmade⟩
      · cases hmade'.symm.trans hnone

/-- **What a setting reads as after an update.** -/
theorem Updated.settingText?_eq (h : db.Updated given after) (hdb : db.KeepsSettings)
    (key : String) :
    after.settingText? key =
      match given key with
      | some doc => .ok (some doc.compact)
      | none => db.settingText? key := by
  rw [Database.settingText?_eq h.keeps, h.rows key]
  cases given key with
  | some doc => rfl
  | none => exact (Database.settingText?_eq hdb key).symm

/-- **A setting is stored in place of all rows of its key**, where there is a table for
it, and nothing else changes. -/
theorem exists_storeSetting (h : db.KeepsSettings)
    (hpresent : (db.table? .engineSettings).isSome = true) (key : String) (doc : Json) :
    ∃ after, db.storeSetting key doc = .ok after ∧ db.Updated (single key doc) after ∧
      (after.table? .engineSettings).isSome = true := by
  obtain ⟨t, ht⟩ := Option.isSome_iff_exists.mp hpresent
  have hown := h t ht
  have hupsert : t.arrange [("key", .text key), ("value", .text doc.compact)] >>=
      t.upsert "key" "value" = .ok (t.withSetting key doc.compact) := by
    rw [hown.arrange_eq, Table.arrange_setting]
    exact hown.upsert_setting key doc.compact
  let after := db.withTable .engineSettings (some (t.withSetting key doc.compact))
  have htable : after.table? .engineSettings = some (t.withSetting key doc.compact) :=
    table?_withTable_self db _ _
  have hstored : db.storeSetting key doc = .ok after := by
    unfold storeSetting upsert
    refine bind_eq_ok.mpr ⟨t, require_eq_ok.mpr ht, ?_⟩
    rw [hupsert]
    rfl
  refine ⟨after, hstored, ⟨fun u hu => ?_, fun other => ?_, fun name hname => ?_⟩, ?_⟩
  · obtain rfl := Option.some.inj (htable.symm.trans hu)
    exact hown.withSetting key doc.compact
  · rw [settingRows, settingRows, htable, ht, Option.elim_some, Option.elim_some]
    by_cases hother : other = key
    · subst hother
      rw [single, if_pos rfl]
      exact Table.filter_setRow_self other doc.compact t.rows
    · rw [single, if_neg hother]
      exact Table.filter_setRow_of_ne doc.compact t.rows hother
  · exact .inl (table?_withTable_of_ne db _ hname)
  · rw [htable]
    rfl

/-! ## Missing tables -/

/-- The database with a table made, where it is missing. -/
def withMissing (db : Database) (name : TableName) : Database :=
  match db.table? name with
  | some _ => db
  | none => db.withTable name (some name.emptyTable)

theorem table?_withMissing_self (db : Database) (name : TableName) :
    (db.withMissing name).table? name = some ((db.table? name).getD name.emptyTable) := by
  unfold withMissing
  split
  · next t ht => rw [ht, Option.getD_some]
  · next ht => rw [ht, table?_withTable_self, Option.getD_none]

theorem table?_withMissing_of_ne (db : Database) {name other : TableName} (h : other ≠ name) :
    (db.withMissing name).table? other = db.table? other := by
  unfold withMissing
  split
  · rfl
  · exact table?_withTable_of_ne db _ h

theorem table?_foldl_withMissing (names : List TableName) (db : Database) (name : TableName) :
    (names.foldl withMissing db).table? name =
      if name ∈ names then some ((db.table? name).getD name.emptyTable) else db.table? name := by
  induction names generalizing db with
  | nil => rfl
  | cons made names ih =>
    rw [List.foldl_cons, ih]
    by_cases hsame : name = made
    · subst hsame
      rw [table?_withMissing_self]
      simp
    · rw [table?_withMissing_of_ne db hsame]
      simp [hsame]

/-- **Every table is there in the end**: the one that was, or one without rows. -/
theorem table?_initialized (db : Database) (name : TableName) :
    db.initialized.table? name = some ((db.table? name).getD name.emptyTable) := by
  have hall : name ∈ TableName.all := by cases name <;> decide
  have hfold : db.initialized = TableName.all.foldl withMissing db := rfl
  rw [hfold, table?_foldl_withMissing, if_pos hall]

theorem KeepsSettings.initialized (h : db.KeepsSettings) : db.initialized.KeepsSettings := by
  intro t ht
  obtain rfl := Option.some.inj ((table?_initialized db .engineSettings).symm.trans ht)
  cases hdb : db.table? .engineSettings with
  | none => exact ⟨rfl, rfl, rfl, fun hnone => absurd rfl hnone⟩
  | some t => exact h t hdb

/-- A table without rows has no settings. -/
theorem settingRows_initialized (db : Database) (key : String) :
    db.initialized.settingRows key = db.settingRows key := by
  rw [settingRows, settingRows, table?_initialized]
  cases db.table? .engineSettings <;> rfl

/-- **To make the tables that are missing changes no row.** -/
theorem updated_initialized (h : db.KeepsSettings) :
    db.Updated (fun _ => none) db.initialized where
  keeps := h.initialized
  rows := settingRows_initialized db
  tables name _ := by
    rw [table?_initialized]
    cases db.table? name with
    | none => exact .inr ⟨rfl, rfl⟩
    | some t => exact .inl rfl

/-! ## What is read -/

/-- What a setting is read as depends on its text. -/
theorem setting?_congr {α : Type} {read : Json → Option α}
    (h : after.settingText? key = db.settingText? key) :
    after.setting? key read = db.setting? key read := by
  rw [setting?, setting?, h]

theorem setting?_of_settingText? {α : Type} {read : Json → Option α} {text : String}
    (h : db.settingText? key = .ok (some text)) :
    db.setting? key read =
      match Json.parse? text >>= read with
      | some value => .ok (some value)
      | none => .error (.invalidSetting key) := by
  rw [setting?, h]
  show (match Json.parse? text >>= read with
    | some value => pure (some value)
    | none => throw (StoreError.invalidSetting key)) = _
  cases Json.parse? text >>= read <;> rfl

/-- A policy that was stored is read off the document that it was stored as. -/
theorem policyDocument_eq_ok_iff {d read : PolicyDocument}
    (h : db.settingText? policyKey = .ok (some d.toJson.compact)) :
    db.policyDocument = .ok read ↔ PolicyDocument.ofJson? d.toJson = some read := by
  rw [← d.ofJson?_parse?_compact, policyDocument, setting?_of_settingText? h]
  cases Json.parse? d.toJson.compact >>= PolicyDocument.ofJson? with
  | none => constructor <;> intro hread <;> cases hread
  | some found => exact ⟨fun hread => congrArg some (Except.ok.inj hread),
      fun hread => congrArg Except.ok (Option.some.inj hread)⟩

/-- A flag that was stored is read as it was. -/
theorem backfillFlag?_eq {b : Bool}
    (h : db.settingText? backfillKey = .ok (some (Json.bool b).compact)) :
    db.backfillFlag? = .ok (some b) := by
  have hsound : (Json.bool b).Sound := trivial
  rw [backfillFlag?, setting?_of_settingText? h, Json.parse?_compact hsound]
  rfl

end Database

end StarFreight
