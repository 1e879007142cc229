import StarFreight.Proofs.Avoidance.Rows
import StarFreight.Proofs.Store.Rows
import StarFreight.Store.Policies
/-!
# Store — rows of rules

What is loaded of a table of rules is told by its rows (`rules_eq_ok`): those that are
active are sorted by number, and of these the ones that make sense become rules. A row
that is not active or makes no sense does not count, wherever it stands, since a list
that is sorted and then sifted is the same as one that is sifted and then sorted
(`filter_mergeSort`). So without such rows the same is loaded (`rules_of_kept`).
-/

namespace StarFreight

/-! ## Sifting and sorting -/

section Sorting

variable {α : Type} {le : α → α → Bool}

/-- There is one place to cut a list into what passes a test and what does not. -/
theorem eq_of_append_eq (test : α → Bool) {as bs cs ds : List α} (h : as ++ bs = cs ++ ds)
    (has : ∀ a ∈ as, test a = true) (hbs : ∀ b ∈ bs, test b = false)
    (hcs : ∀ c ∈ cs, test c = true) (hds : ∀ d ∈ ds, test d = false) : as = cs ∧ bs = ds := by
  have hfront : ∀ {front rest : List α}, (∀ a ∈ front, test a = true) →
      (∀ b ∈ rest, test b = false) → (front ++ rest).filter test = front := by
    intro front rest hfront hrest
    rw [List.filter_append, List.filter_eq_self.mpr hfront,
      List.filter_eq_nil_iff.mpr fun b hb => Bool.eq_false_iff.mp (hrest b hb), List.append_nil]
  obtain rfl : as = cs := (hfront has hbs).symm.trans ((congrArg _ h).trans (hfront hcs hds))
  exact ⟨rfl, List.append_cancel_left h⟩

/-- **A list that is sorted and then sifted is one that is sifted and then sorted.** -/
theorem filter_mergeSort (htrans : ∀ a b c, le a b = true → le b c = true → le a c = true)
    (htotal : ∀ a b, (le a b || le b a) = true) (keep : α → Bool) (as : List α) :
    (as.mergeSort le).filter keep = (as.filter keep).mergeSort le := by
  induction as with
  | nil => simp
  | cons a as ih =>
    obtain ⟨front, rest, hcons, hsorted, hbefore⟩ := List.mergeSort_cons htrans htotal a as
    rw [hcons, List.filter_append]
    rw [hsorted, List.filter_append] at ih
    cases hkeep : keep a with
    | false =>
      have hdrop : ∀ bs : List α, (a :: bs).filter keep = bs.filter keep := fun bs =>
        List.filter_cons_of_neg (by simp [hkeep])
      rw [hdrop, hdrop, ih]
    | true =>
      obtain ⟨front', rest', hcons', hsorted', hbefore'⟩ :=
        List.mergeSort_cons htrans htotal a (as.filter keep)
      rw [List.filter_cons_of_pos hkeep, List.filter_cons_of_pos hkeep, hcons']
      -- in either list `a` stands behind all that it does not come before
      have hafter : ∀ {front rest : List α},
          (front ++ a :: rest).Pairwise (fun x y => le x y = true) →
            ∀ b ∈ rest, (!le a b) = false := by
        intro front rest hpairwise b hb
        simpa using (List.pairwise_cons.mp (List.pairwise_append.mp hpairwise).2.1).1 b hb
      have hrest := hafter (hcons ▸ List.pairwise_mergeSort htrans htotal (a :: as))
      have hrest' := hafter (hcons' ▸ List.pairwise_mergeSort htrans htotal (a :: as.filter keep))
      obtain ⟨hfront, htail⟩ := eq_of_append_eq (fun b => !le a b) (ih.trans hsorted')
        (fun b hb => hbefore b (List.mem_filter.mp hb).1)
        (fun b hb => hrest b (List.mem_filter.mp hb).1) hbefore' hrest'
      rw [hfront, htail]

end Sorting

/-! ## Cells that may hold nothing -/

/-- Whether a cell holds a truth value: an integer, which is true unless it is zero. -/
def Cell.IsTruth (cell : Cell) (b : Bool) : Prop :=
  ∃ n, cell = .integer n ∧ b = (n != 0)

/-- Whether a cell holds something or nothing. -/
inductive Cell.Offers {α : Type} (holds : Cell → α → Prop) : Cell → Option α → Prop where
  | nothing : Offers holds .null none
  | given {cell : Cell} {a : α} (h : holds cell a) : Offers holds cell (some a)

namespace Record

variable {record : Record} {i : Nat}

theorem truth_eq_ok {b : Bool} : record.truth i = .ok b ↔ (record.cell i).IsTruth b := by
  unfold truth Cell.IsTruth
  cases record.cell i <;> simp [eq_comm]

/-- What may be missing is read where it is there. -/
theorem optional_eq_ok {α : Type} {read : Record → Nat → Except StoreError α}
    {holds : Cell → α → Prop} {o : Option α}
    (hread : ∀ a, read record i = .ok a ↔ holds (record.cell i) a) (hnull : ∀ a, ¬ holds .null a) :
    record.optional read i = .ok o ↔ Cell.Offers holds (record.cell i) o := by
  unfold optional
  cases hcell : (record.cell i).isNull with
  | true =>
    have hempty : record.cell i = .null := by
      cases hc : record.cell i <;> simp_all [Cell.isNull]
    rw [hempty, if_pos rfl]
    constructor
    · intro h
      obtain rfl := Except.ok.inj h
      exact .nothing
    · rintro (_ | h)
      · rfl
      · exact absurd h (hnull _)
  | false =>
    rw [if_neg Bool.false_ne_true]
    constructor
    · intro h
      cases hvalue : read record i with
      | error e => rw [hvalue] at h; cases h
      | ok a =>
        rw [hvalue] at h
        obtain rfl := Except.ok.inj h
        exact .given ((hread a).mp hvalue)
    · intro h
      generalize hc : record.cell i = cell at h
      cases h with
      | nothing => rw [hc] at hcell; cases hcell
      | given h => rw [(hread _).mpr (hc ▸ h)]; rfl

end Record

/-! ## What rows of rules show -/

namespace Table

variable {t : Table} {row : Row} {rows : List Row} {r : RuleRow} {rule : AvoidRule}

/-- What a row of a rule shows. -/
structure ShowsRule (t : Table) (row : Row) (r : RuleRow) : Prop where
  id : t.cellIn row "id" = .integer r.id
  scopeType : t.cellIn row "scope_type" = .text r.scopeType
  idA : Cell.Offers (· = .integer ·) (t.cellIn row "id_a") r.idA
  idB : Cell.Offers (· = .integer ·) (t.cellIn row "id_b") r.idB
  severity : Cell.Offers (· = .integer ·) (t.cellIn row "severity") r.severity
  hard : ∃ given, Cell.Offers Cell.IsTruth (t.cellIn row "hard_block") given ∧
    r.hard = given.getD false
  pickup : Cell.Offers Cell.IsTruth (t.cellIn row "apply_pickup") r.pickup
  delivery : Cell.Offers Cell.IsTruth (t.cellIn row "apply_delivery") r.delivery
  transit : Cell.Offers Cell.IsTruth (t.cellIn row "apply_transit") r.transit
  reason : Cell.Offers (· = .text ·) (t.cellIn row "reason") r.reason

/-- **The rule row of a record is what its row shows.** -/
theorem ruleRow_record : (t.record ruleColumns row).ruleRow = .ok r ↔ t.ShowsRule row r := by
  have hcell : ∀ i name, ruleColumns[i]? = some name →
      (t.record ruleColumns row).cell i = t.cellIn row name :=
    fun _ _ => cell_record
  have hinteger : ∀ i name o, ruleColumns[i]? = some name →
      ((t.record ruleColumns row).optional Record.integer i = .ok o ↔
        Cell.Offers (· = .integer ·) (t.cellIn row name) o) := fun i name o hi =>
    hcell i name hi ▸ Record.optional_eq_ok (fun _ => Record.integer_eq_ok) nofun
  have htruth : ∀ i name o, ruleColumns[i]? = some name →
      ((t.record ruleColumns row).optional Record.truth i = .ok o ↔
        Cell.Offers Cell.IsTruth (t.cellIn row name) o) := fun i name o hi =>
    hcell i name hi ▸ Record.optional_eq_ok (fun _ => Record.truth_eq_ok) nofun
  have htext : ∀ i name o, ruleColumns[i]? = some name →
      ((t.record ruleColumns row).optional Record.text i = .ok o ↔
        Cell.Offers (· = .text ·) (t.cellIn row name) o) := fun i name o hi =>
    hcell i name hi ▸ Record.optional_eq_ok (fun _ => Record.text_eq_ok) nofun
  unfold Record.ruleRow
  simp only [bind_eq_ok, pure_eq_ok, Record.integer_eq_ok, Record.text_eq_ok, hcell 0 _ rfl,
    hcell 1 _ rfl, hinteger 2 _ _ rfl, hinteger 3 _ _ rfl, hinteger 4 _ _ rfl, htruth 5 _ _ rfl,
    htruth 6 _ _ rfl, htruth 7 _ _ rfl, htruth 8 _ _ rfl, htext 9 _ _ rfl]
  constructor
  · rintro ⟨id, hid, scopeType, hscope, idA, hA, idB, hB, severity, hseverity, hard, hhard,
      pickup, hpickup, delivery, hdelivery, transit, htransit, reason, hreason, rfl⟩
    exact ⟨hid, hscope, hA, hB, hseverity, ⟨hard, hhard, rfl⟩, hpickup, hdelivery, htransit,
      hreason⟩
  · rintro ⟨hid, hscope, hA, hB, hseverity, ⟨hard, hhard, hgiven⟩, hpickup, hdelivery, htransit,
      hreason⟩
    exact ⟨r.id, hid, r.scopeType, hscope, r.idA, hA, r.idB, hB, r.severity, hseverity, hard, hhard,
      r.pickup, hpickup, r.delivery, hdelivery, r.transit, htransit, r.reason, hreason,
      by rw [← hgiven]⟩

/-- Whether a row of a rule is active. -/
def isActive (t : Table) (row : Row) : Bool :=
  (t.affinityIn "active").equates (t.cellIn row "active") (.integer 1)

/-- The rule of a row, if the row makes sense. -/
def ruleOf? (t : Table) (row : Row) : Option AvoidRule :=
  (t.record ruleColumns row).ruleRow.toOption >>= RuleRow.toRule?

/-- Whether a row counts: it is active and makes sense. -/
def counts (t : Table) (row : Row) : Bool :=
  t.isActive row && (t.ruleOf? row).isSome

/-- The number of a row of a rule. -/
def ruleId (t : Table) (row : Row) : Int :=
  match t.cellIn row "id" with
  | .integer n => n
  | _ => 0

/-- Whether a row of a rule may come before another. -/
def byRuleId (t : Table) (a b : Row) : Bool :=
  decide (t.ruleId a ≤ t.ruleId b)

/-- The rules that a table gives: the active rows by number, as far as they make sense. -/
def loadedRules (t : Table) : List AvoidRule :=
  ((t.rows.filter t.isActive).mergeSort t.byRuleId).filterMap t.ruleOf?

/-- A table with some of its rows. -/
def keeping (t : Table) (keep : Row → Bool) : Table :=
  { t with rows := t.rows.filter keep }

theorem ShowsRule.ruleId (h : t.ShowsRule row r) : t.ruleId row = r.id := by
  rw [Table.ruleId, h.id]

theorem ShowsRule.ruleOf? (h : t.ShowsRule row r) : t.ruleOf? row = r.toRule? := by
  rw [Table.ruleOf?, ruleRow_record.mpr h, Except.toOption, Option.bind_eq_bind, Option.bind_some]

theorem ruleOf?_eq_some_iff : t.ruleOf? row = some rule ↔
    ∃ r, t.ShowsRule row r ∧ r.Gives rule := by
  simp only [ruleOf?, Option.bind_eq_bind, Option.bind_eq_some_iff, toOption_eq_some_iff,
    ruleRow_record, RuleRow.toRule?_eq_some_iff]

/-- **A row counts exactly when it is active and what it shows makes sense.** -/
theorem counts_iff : t.counts row = true ↔
    t.isActive row = true ∧ ∃ r, t.ShowsRule row r ∧ r.Valid := by
  rw [counts, Bool.and_eq_true, Option.isSome_iff_exists]
  refine and_congr_right fun _ => ?_
  simp only [ruleOf?_eq_some_iff, ← RuleRow.isSome_toRule?_iff, Option.isSome_iff_exists,
    RuleRow.toRule?_eq_some_iff]
  exact ⟨fun ⟨rule, r, hr, hrule⟩ => ⟨r, hr, rule, hrule⟩,
    fun ⟨r, hr, rule, hrule⟩ => ⟨rule, r, hr, hrule⟩⟩

/-- Active rows that can all be read have numbers, in whatever order they are read. -/
theorem exists_id_of_shows {sorted : List Row} {shown : List RuleRow} (hperm : sorted.Perm rows)
    (h : List.Forall₂ t.ShowsRule sorted shown) :
    ∀ row ∈ rows, ∃ n, t.cellIn row "id" = .integer n := by
  intro row hrow
  obtain ⟨r, -, hr⟩ := exists_mem_of_forall₂ h (hperm.mem_iff.mpr hrow)
  exact ⟨r.id, hr.id⟩

theorem byRuleId_trans (a b c : Row) (hab : t.byRuleId a b = true) (hbc : t.byRuleId b c = true) :
    t.byRuleId a c = true := by
  simp only [byRuleId, decide_eq_true_eq] at *
  omega

theorem byRuleId_total (a b : Row) : (t.byRuleId a b || t.byRuleId b a) = true := by
  simp only [byRuleId, Bool.or_eq_true, decide_eq_true_eq]
  omega

/-- Rows that all have a number are sorted by it. -/
theorem sortRows_eq_mergeSort (hid : t.HasColumns ["id"])
    (h : ∀ row ∈ rows, ∃ n, t.cellIn row "id" = .integer n) :
    sortRows (["id"].filterMap t.column?) rows = rows.mergeSort t.byRuleId := by
  obtain ⟨position, hposition⟩ := Option.isSome_iff_exists.mp (hid "id" List.mem_cons_self)
  have hcell : ∀ row, t.cellIn row "id" = cellAt row position := fun row => by
    rw [cellIn, hposition]
  have hsame : (rows.mergeSort fun a b =>
      !keyLt ([position].map (cellAt b)) ([position].map (cellAt a))).map id =
      (rows.map id).mergeSort t.byRuleId := by
    refine List.map_mergeSort fun a ha b hb => ?_
    obtain ⟨n, hn⟩ := h a ha
    obtain ⟨m, hm⟩ := h b hb
    have hbefore : t.byRuleId a b = !decide (m < n) := by
      simp only [byRuleId, ruleId, hn, hm, ← decide_not, Int.not_lt]
    rw [hcell] at hn hm
    simp only [id, hbefore, List.map_cons, List.map_nil, keyLt, hn, hm, Cell.lt, Bool.and_false,
      Bool.or_false]
  rw [List.map_id, List.map_id] at hsame
  rw [List.filterMap_cons_some hposition]
  exact hsame

/-- A table of rules of which all that is active can be read. -/
structure RulesReadable (t : Table) : Prop where
  columns : t.HasColumns ruleColumns
  active : t.HasColumns ["active"]
  rows : ∀ row ∈ t.rows, t.isActive row = true → ∃ r, t.ShowsRule row r

/-- What the rules that are loaded of a table are. -/
structure Loads (t : Table) (rules : List AvoidRule) : Prop where
  /-- They are the rules of the rows that count. -/
  told : ∃ rows, rows.Perm (t.rows.filter t.counts) ∧
    List.Forall₂ (fun row rule => ∃ r, t.ShowsRule row r ∧ r.Gives rule) rows rules
  ascending : rules.Pairwise (·.id ≤ ·.id)
  severity : ∀ rule ∈ rules, 1 ≤ rule.severity ∧ rule.severity ≤ 4294967295
  ends : ∀ rule ∈ rules, ∀ link, rule.scope = .edge link → link.low < link.high

theorem loads_loadedRules (t : Table) : t.Loads t.loadedRules := by
  have hgives : ∀ rule ∈ t.loadedRules, ∃ r : RuleRow, r.Gives rule := by
    intro rule hrule
    obtain ⟨row, -, hrow⟩ := List.mem_filterMap.mp hrule
    obtain ⟨r, -, hr⟩ := ruleOf?_eq_some_iff.mp hrow
    exact ⟨r, hr⟩
  constructor
  case told =>
    let sorted := (t.rows.filter t.isActive).mergeSort t.byRuleId
    refine ⟨sorted.filter fun row => (t.ruleOf? row).isSome, ?_, ?_⟩
    · refine ((List.mergeSort_perm _ _).filter _).trans (List.Perm.of_eq ?_)
      rw [List.filter_filter]
      exact List.filter_congr fun row _ => Bool.and_comm _ _
    · have hsome : List.Forall₂ (fun row rule => t.ruleOf? row = some rule)
          (sorted.filter fun row => (t.ruleOf? row).isSome)
          ((sorted.filter fun row => (t.ruleOf? row).isSome).filterMap t.ruleOf?) :=
        forall₂_filterMap fun row hrow => (List.mem_filter.mp hrow).2
      have hall : (sorted.filter fun row => (t.ruleOf? row).isSome).filterMap t.ruleOf? =
          t.loadedRules := by
        rw [List.filterMap_filter]
        refine List.filterMap_congr fun row _ => ?_
        cases t.ruleOf? row <;> rfl
      rw [← hall]
      exact hsome.imp fun row rule => ruleOf?_eq_some_iff.mp
  case ascending =>
    refine List.pairwise_filterMap.mpr ?_
    refine (List.pairwise_mergeSort byRuleId_trans byRuleId_total _).imp ?_
    intro a b hab rule hrule rule' hrule'
    obtain ⟨r, hr, hgives⟩ := ruleOf?_eq_some_iff.mp hrule
    obtain ⟨r', hr', hgives'⟩ := ruleOf?_eq_some_iff.mp hrule'
    rw [hgives.id, hgives'.id, ← hr.ruleId, ← hr'.ruleId]
    exact of_decide_eq_true hab
  case severity =>
    intro rule hrule
    obtain ⟨r, hr⟩ := hgives rule hrule
    exact ⟨hr.severity_pos, hr.severity_le⟩
  case ends =>
    intro rule hrule link hlink
    obtain ⟨r, hr⟩ := hgives rule hrule
    exact RuleRow.Targets.low_lt_high (hlink ▸ hr.scope)

/-- **Rows that do not count have no say**, however many there are and wherever they
stand. -/
theorem loadedRules_keeping {keep : Row → Bool}
    (h : ∀ row ∈ t.rows, t.counts row = true → keep row = true) :
    (t.keeping keep).loadedRules = t.loadedRules := by
  have hsame : (t.keeping keep).loadedRules =
      (((t.rows.filter keep).filter t.isActive).mergeSort t.byRuleId).filterMap t.ruleOf? := rfl
  rw [hsame, List.filter_comm, ← filter_mergeSort byRuleId_trans byRuleId_total,
    List.filterMap_filter]
  refine List.filterMap_congr fun row hrow => ?_
  obtain ⟨hmem, hactive⟩ := List.mem_filter.mp ((List.mergeSort_perm _ _).mem_iff.mp hrow)
  split
  · rfl
  · next hdropped =>
    -- a row that is active and was dropped makes no sense
    have hcounts : t.counts row = false := Bool.eq_false_iff.mpr fun hc => hdropped (h row hmem hc)
    rw [counts, hactive, Bool.true_and, Option.isSome_eq_false_iff, Option.isNone_iff_eq_none]
      at hcounts
    exact hcounts.symm

theorem ShowsRule.keeping (h : t.ShowsRule row r) (keep : Row → Bool) :
    (t.keeping keep).ShowsRule row r :=
  ⟨h.id, h.scopeType, h.idA, h.idB, h.severity, h.hard, h.pickup, h.delivery, h.transit, h.reason⟩

theorem RulesReadable.keeping (h : t.RulesReadable) (keep : Row → Bool) :
    (t.keeping keep).RulesReadable := by
  refine ⟨h.columns, h.active, fun row hrow hon => ?_⟩
  obtain ⟨r, hr⟩ := h.rows row (List.mem_filter.mp hrow).1 hon
  exact ⟨r, hr.keeping keep⟩

end Table

namespace Database

/-- The database with another table of rules. -/
def withRules (db : Database) (t : Option Table) : Database :=
  db.withTable .avoidRules t

variable {db : Database} {t : Table} {rows : List RuleRow} {set : RuleSet}

/-- The rows of rules are what the active rows show, by number. -/
theorem activeRuleRows_eq_ok (ht : db.avoidRules = some t) : db.activeRuleRows = .ok rows ↔
    t.HasColumns ruleColumns ∧ t.HasColumns ["active"] ∧
      List.Forall₂ t.ShowsRule ((t.rows.filter t.isActive).mergeSort t.byRuleId) rows := by
  have hactive : (fun row => [Condition.isInteger "active" 1].all (t.meets row)) = t.isActive := by
    funext row
    rw [List.all_cons, List.all_nil, Bool.and_true]
    rfl
  have htable : db.table? .avoidRules = some t := ht
  unfold activeRuleRows
  simp only [ht, bind_eq_ok, select_eq_ok, htable, Option.some.injEq, exists_eq_left',
    Table.answer_eq_ok_iff, mapM_eq_ok, hactive]
  constructor
  · rintro ⟨records, ⟨hcolumns, hactive, hid, rfl⟩, hread⟩
    rw [List.forall₂_map_left_iff] at hread
    have hshows := hread.imp fun row r => Table.ruleRow_record.mp
    have hnumbers := Table.exists_id_of_shows (List.mergeSort_perm _ _) hshows
    rw [Table.sortRows_eq_mergeSort hid hnumbers] at hshows
    exact ⟨hcolumns, hactive, hshows⟩
  · rintro ⟨hcolumns, hactive, hshows⟩
    have hid : t.HasColumns ["id"] := fun name hname =>
      hcolumns name (List.mem_singleton.mp hname ▸ List.mem_cons_self)
    have hnumbers := Table.exists_id_of_shows (List.mergeSort_perm _ _) hshows
    refine ⟨_, ⟨hcolumns, hactive, hid, rfl⟩, ?_⟩
    rw [Table.sortRows_eq_mergeSort hid hnumbers, List.forall₂_map_left_iff]
    exact hshows.imp fun row r => Table.ruleRow_record.mpr

/-- **The rules in force are those that the rows of their table give.** -/
theorem rules_eq_ok (ht : db.avoidRules = some t) : db.rules = .ok set ↔
    t.RulesReadable ∧ set = .ofList t.loadedRules := by
  unfold rules
  simp only [bind_eq_ok, pure_eq_ok, activeRuleRows_eq_ok ht]
  have hgiven : ∀ {sorted : List Row} {rows : List RuleRow},
      List.Forall₂ t.ShowsRule sorted rows →
        rows.filterMap RuleRow.toRule? = sorted.filterMap t.ruleOf? := by
    intro sorted rows h
    induction h with
    | nil => rfl
    | cons hrow _ ih => rw [List.filterMap_cons, List.filterMap_cons, hrow.ruleOf?, ih]
  constructor
  · rintro ⟨rows, ⟨hcolumns, hactive, hshows⟩, rfl⟩
    refine ⟨⟨hcolumns, hactive, fun row hrow hon => ?_⟩, congrArg RuleSet.ofList (hgiven hshows)⟩
    obtain ⟨r, -, hr⟩ := exists_mem_of_forall₂ hshows
      ((List.mergeSort_perm _ _).mem_iff.mpr (List.mem_filter.mpr ⟨hrow, hon⟩))
    exact ⟨r, hr⟩
  · rintro ⟨h, rfl⟩
    have hsorted : ∀ row ∈ (t.rows.filter t.isActive).mergeSort t.byRuleId,
        ∃ r, t.ShowsRule row r := by
      intro row hrow
      obtain ⟨hmem, hon⟩ := List.mem_filter.mp ((List.mergeSort_perm _ _).mem_iff.mp hrow)
      exact h.rows row hmem hon
    obtain ⟨rows, hshows⟩ := exists_forall₂ hsorted
    exact ⟨rows, ⟨h.columns, h.active, hshows⟩, congrArg RuleSet.ofList (hgiven hshows)⟩

/-- **Without rows that do not count the same rules are loaded.** -/
theorem rules_keeping {keep : Row → Bool} (ht : db.avoidRules = some t)
    (h : db.rules = .ok set) (hkeep : ∀ row ∈ t.rows, t.counts row = true → keep row = true) :
    (db.withRules (some (t.keeping keep))).rules = .ok set := by
  obtain ⟨hreadable, rfl⟩ := (rules_eq_ok ht).mp h
  exact (rules_eq_ok rfl).mpr
    ⟨hreadable.keeping keep, congrArg RuleSet.ofList (Table.loadedRules_keeping hkeep).symm⟩

end Database

end StarFreight
