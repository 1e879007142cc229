import StarFreight.Location.Resolve
import StarFreight.Proofs.Chart.Loading
import StarFreight.Proofs.Store.Rows
/-!
# Location — the stages of a name

A name is looked for in stages, and the first that finds anything decides. This
file says what a stage finds in terms of rows (`Gazetteer.nameStages`): the
systems of the snapshot or of both tables that have the name, the stations and
structures that have it, and then the systems of either table whose name it is a
part of. Where the tables of names can be read, no stage fails before it is
decided (`Gazetteer.firstStage_stages`); so a name is resolved by the first stage
with a find and by that alone.
-/

namespace StarFreight

/-! ## Names in rows -/

namespace Table

variable {t : Table} {order : String} {named : NamedId}

/-- The number of a system and the name that a row gives, if it gives both. -/
def namedId? (t : Table) (row : Row) : Option NamedId :=
  match t.cellIn row "system_id", t.cellIn row "name" with
  | .integer id, .text name => some (id, name)
  | _, _ => none

theorem namedId?_eq_some {row : Row} : t.namedId? row = some named ↔
    t.cellIn row "system_id" = .integer named.1 ∧ t.cellIn row "name" = .text named.2 := by
  unfold namedId?
  split
  · next id name hid hname => simp [hid, hname, Prod.ext_iff]
  · next h => simpa using h named.1 named.2

/-- The numbers and names in a table, in the order of a column. -/
def namedIds (t : Table) (order : String) : List NamedId :=
  (sortRows (t.column? order).toList t.rows).filterMap t.namedId?

/-- **What is listed of a table are the numbers and names of its rows.** -/
theorem mem_namedIds : named ∈ t.namedIds order ↔ ∃ row ∈ t.rows,
    t.cellIn row "system_id" = .integer named.1 ∧ t.cellIn row "name" = .text named.2 := by
  simp only [namedIds, List.mem_filterMap, sortRows, (List.mergeSort_perm _ _).mem_iff,
    namedId?_eq_some]

/-- A table of which every row gives a number and a name, to be sorted by a column. -/
structure NamesReadable (t : Table) (order : String) : Prop where
  columns : t.HasColumns ["system_id", "name"]
  sorted : t.HasColumns [order]
  rows : ∀ row ∈ t.rows, (t.namedId? row).isSome = true

/-- A query without conditions gives what all rows have, in the order asked for. -/
theorem answer_sorted {source : TableName} {columns : List String} (hcolumns : t.HasColumns columns)
    (horder : t.HasColumns [order]) :
    t.answer { source, columns, order := [order] } =
      .ok ((sortRows (t.column? order).toList t.rows).map (t.record columns)) := by
  refine answer_eq_ok_iff.mpr ⟨hcolumns, nofun, horder, ?_⟩
  obtain ⟨position, hposition⟩ := Option.isSome_iff_exists.mp (horder order List.mem_cons_self)
  simp only [List.all_nil, List.filter_true, List.filterMap_cons, List.filterMap_nil, hposition,
    Option.toList_some]

/-- The numbers and names of readable rows are read one by one. -/
theorem NamesReadable.mapM_record (h : t.NamesReadable order) :
    ((sortRows (t.column? order).toList t.rows).map (t.record ["system_id", "name"])).mapM
      (fun record => do return (← record.integer 0, ← record.text 1)) =
        .ok (t.namedIds order) := by
  have hgiven : ∀ row ∈ sortRows (t.column? order).toList t.rows,
      (t.namedId? row).isSome = true :=
    fun row hrow => h.rows row ((List.mergeSort_perm _ _).mem_iff.mp hrow)
  rw [mapM_eq_ok, List.forall₂_map_left_iff]
  refine (forall₂_filterMap hgiven).imp fun row named hnamed => ?_
  obtain ⟨hid, hname⟩ := namedId?_eq_some.mp hnamed
  have hcell : ∀ i column, ["system_id", "name"][i]? = some column →
      (t.record ["system_id", "name"] row).cell i = t.cellIn row column :=
    fun _ _ => cell_record
  exact bind_eq_ok.mpr ⟨named.1, Record.integer_eq_ok.mpr ((hcell 0 _ rfl).trans hid),
    bind_eq_ok.mpr ⟨named.2, Record.text_eq_ok.mpr ((hcell 1 _ rfl).trans hname), rfl⟩⟩

end Table

namespace Database

variable {db : Database} {source : TableName} {order : String} {named : NamedId}

/-- The numbers and names in a table of the database, in the order of a column. -/
def namedIds (db : Database) (source : TableName) (order : String) : List NamedId :=
  match db.table? source with
  | some t => t.namedIds order
  | none => []

theorem mem_namedIds : named ∈ db.namedIds source order ↔ ∃ t, db.table? source = some t ∧
    ∃ row ∈ t.rows, t.cellIn row "system_id" = .integer named.1 ∧
      t.cellIn row "name" = .text named.2 := by
  unfold namedIds
  cases db.table? source with
  | none => simp
  | some t => simp [Table.mem_namedIds]

/-- A database whose tables of names can be read. -/
structure NamesReadable (db : Database) : Prop where
  systems : ∀ source ∈ systemTables, ∃ t, db.table? source = some t ∧ t.NamesReadable "system_id"
  locations : ∃ t, db.table? .referenceLocations = some t ∧ t.NamesReadable "location_id"

/-- Systems can be read by name as well as by number. -/
theorem NamesReadable.systems_by_name (h : db.NamesReadable) (hsource : source ∈ systemTables) :
    ∃ t, db.table? source = some t ∧ t.NamesReadable "name" := by
  obtain ⟨t, ht, hcolumns, -, hrows⟩ := h.systems source hsource
  have hname : t.HasColumns ["name"] := fun column hcolumn =>
    hcolumns column (List.mem_cons_of_mem _ hcolumn)
  exact ⟨t, ht, hcolumns, hname, hrows⟩

end Database

namespace Gazetteer

variable {g : Gazetteer} {text name front : String} {source : TableName} {order : String}
  {test : String → Bool}

/-! ## Stages -/

/-- The numbers and names of a table whose normalized name satisfies a test. -/
def tableFinds (g : Gazetteer) (source : TableName) (order : String) (test : String → Bool) :
    List NamedId :=
  (g.database.namedIds source order).filter fun named => test (Text.normalizeName named.2)

/-- The system of the snapshot that goes by a name. -/
def snapshotFind? (g : Gazetteer) (name : String) : Option NamedId :=
  g.snapshot.idByName? name >>= fun id => (g.snapshot.name? id).map (id, ·)

/-- The systems that have a name: the snapshot's alone, or else one of each number in
the two tables. -/
def systemFinds (g : Gazetteer) (name : String) : List NamedId :=
  match g.snapshotFind? name with
  | some named => [named]
  | none => firstOfEach (·.1) (g.tableFinds .mapSystems "system_id" (· == name) ++
      g.tableFinds .referenceSystems "system_id" (· == name))

/-- What is found in a table are its rows with such a name. -/
theorem mem_tableFinds {named : NamedId} : named ∈ g.tableFinds source order test ↔
    named ∈ g.database.namedIds source order ∧ test (Text.normalizeName named.2) = true :=
  List.mem_filter

/-- **The snapshot of a graph finds a system of the graph** by its name, and nothing else. -/
theorem snapshotFind?_ofGraph {graph : Graph} {demands : GraphDemands} {generation : Nat}
    (hsnapshot : g.snapshot = .ofGraph graph demands generation) :
    (∀ named, g.snapshotFind? name = some named → ∃ s ∈ graph.systemList,
      (s.id, s.name) = named ∧ Text.normalizeName s.name = Text.normalizeName name) ∧
    ((∃ s ∈ graph.systemList, Text.normalizeName s.name = Text.normalizeName name) →
      (g.snapshotFind? name).isSome = true) := by
  obtain ⟨hfound, hfinds⟩ := Snapshot.idByName?_ofGraph graph demands generation name
  have hname : ∀ s ∈ graph.systemList, g.snapshot.name? s.id = some s.name := by
    intro s hs
    rw [hsnapshot, Snapshot.name?, Snapshot.system?]
    exact congrArg (Option.map _) (Graph.system?_of_mem_systemList hs)
  rw [← hsnapshot] at hfound hfinds
  constructor
  · intro named hnamed
    obtain ⟨id, hid, hnamed⟩ := Option.bind_eq_some_iff.mp hnamed
    obtain ⟨s, hs, rfl, hsame⟩ := hfound id hid
    rw [hname s hs] at hnamed
    exact ⟨s, hs, Option.some.inj hnamed, hsame⟩
  · intro h
    obtain ⟨id, hid⟩ := Option.isSome_iff_exists.mp (hfinds h)
    obtain ⟨s, hs, rfl, -⟩ := hfound id hid
    exact Option.isSome_iff_exists.mpr ⟨(s.id, s.name), Option.bind_eq_some_iff.mpr
      ⟨s.id, hid, by rw [hname s hs]; rfl⟩⟩

/-- What it means to find systems by their whole name. -/
structure FindsSystems (g : Gazetteer) (name : String) (finds : List NamedId) : Prop where
  /-- What the snapshot finds is found alone. -/
  hit : ∀ named, g.snapshotFind? name = some named → finds = [named]
  /-- Otherwise it is rows of either table that have the name. -/
  stored : g.snapshotFind? name = none → ∀ named ∈ finds,
    ∃ source ∈ systemTables, named ∈ g.database.namedIds source "system_id" ∧
      Text.normalizeName named.2 = name
  /-- No number of such a row is missing. -/
  complete : g.snapshotFind? name = none → ∀ source ∈ systemTables,
    ∀ named ∈ g.database.namedIds source "system_id", Text.normalizeName named.2 = name →
      ∃ found ∈ finds, found.1 = named.1
  distinct : finds.Pairwise fun a b => a.1 ≠ b.1
  /-- The snapshot of a graph finds a system of the graph that has the name. -/
  charted : ∀ graph demands generation, g.snapshot = .ofGraph graph demands generation →
    (∃ s ∈ graph.systemList, Text.normalizeName s.name = Text.normalizeName name) →
    ∃ s ∈ graph.systemList, Text.normalizeName s.name = Text.normalizeName name ∧
      finds = [(s.id, s.name)]
  /-- And it finds none where none has it. -/
  uncharted : ∀ graph demands generation, g.snapshot = .ofGraph graph demands generation →
    (∀ s ∈ graph.systemList, Text.normalizeName s.name ≠ Text.normalizeName name) →
    g.snapshotFind? name = none

theorem snapshotFind?_charted {graph : Graph} {demands : GraphDemands} {generation : Nat}
    (hsnapshot : g.snapshot = .ofGraph graph demands generation)
    (h : ∃ s ∈ graph.systemList, Text.normalizeName s.name = Text.normalizeName name) :
    ∃ s ∈ graph.systemList, Text.normalizeName s.name = Text.normalizeName name ∧
      g.snapshotFind? name = some (s.id, s.name) := by
  obtain ⟨named, hnamed⟩ := Option.isSome_iff_exists.mp ((snapshotFind?_ofGraph hsnapshot).2 h)
  obtain ⟨s, hs, rfl, hsame⟩ := (snapshotFind?_ofGraph hsnapshot).1 named hnamed
  exact ⟨s, hs, hsame, hnamed⟩

theorem snapshotFind?_uncharted {graph : Graph} {demands : GraphDemands} {generation : Nat}
    (hsnapshot : g.snapshot = .ofGraph graph demands generation)
    (h : ∀ s ∈ graph.systemList, Text.normalizeName s.name ≠ Text.normalizeName name) :
    g.snapshotFind? name = none := by
  refine Option.eq_none_iff_forall_not_mem.mpr fun named hnamed => ?_
  obtain ⟨s, hs, -, hsame⟩ := (snapshotFind?_ofGraph hsnapshot).1 named hnamed
  exact h s hs hsame

theorem findsSystems (g : Gazetteer) (name : String) :
    g.FindsSystems name (g.systemFinds name) := by
  unfold systemFinds
  cases hfind : g.snapshotFind? name with
  | some named =>
    exact {
      hit := fun other hother => by rw [Option.some.inj (hfind.symm.trans hother)]
      stored := fun hnone => nomatch hfind.symm.trans hnone
      complete := fun hnone => nomatch hfind.symm.trans hnone
      distinct := List.pairwise_singleton _ _
      charted := fun _ _ _ hsnapshot h => by
        obtain ⟨s, hs, hsame, hnamed⟩ := snapshotFind?_charted hsnapshot h
        exact ⟨s, hs, hsame, by rw [Option.some.inj (hfind.symm.trans hnamed)]⟩
      uncharted := fun _ _ _ => snapshotFind?_uncharted }
  | none =>
    refine ⟨fun named hnamed => (nomatch hfind.symm.trans hnamed), fun _ named hnamed => ?_,
      fun _ source hsource named hmem hname => ?_, pairwise_firstOfEach _,
      fun _ _ _ hsnapshot hcharted => ?_, fun _ _ _ => snapshotFind?_uncharted⟩
    · rcases List.mem_append.mp (mem_of_mem_firstOfEach hnamed) with hmem | hmem
      · obtain ⟨hmem, hname⟩ := mem_tableFinds.mp hmem
        exact ⟨_, List.mem_cons_self, hmem, beq_iff_eq.mp hname⟩
      · obtain ⟨hmem, hname⟩ := mem_tableFinds.mp hmem
        exact ⟨_, List.mem_cons_of_mem _ List.mem_cons_self, hmem, beq_iff_eq.mp hname⟩
    · have hfound : named ∈ g.tableFinds source "system_id" (· == name) :=
        mem_tableFinds.mpr ⟨hmem, beq_iff_eq.mpr hname⟩
      refine exists_mem_firstOfEach (List.mem_append.mpr ?_)
      rcases mem_systemTables.mp hsource with rfl | rfl
      · exact .inl hfound
      · exact .inr hfound
    · obtain ⟨s, -, -, hnamed⟩ := snapshotFind?_charted hsnapshot hcharted
      exact nomatch hfind.symm.trans hnamed

/-- The part of a name in front of a dash, if there is any. -/
def front? (normalized : String) : Option String :=
  ((Text.before? separator normalized).map Text.trim).filter (!·.isEmpty)

/-- A stage of a name. -/
structure NameStage where
  /-- What the caller is told to be ambiguous if it is. -/
  shown : String
  finds : List NamedId
  /-- Whether no more finds are listed than are looked at. -/
  limited : Bool

/-- The stages of a name that is not blank. -/
def nameStages (g : Gazetteer) (text : String) : List NameStage :=
  let normalized := Text.normalizeName text
  ((front? normalized).map fun front =>
    { shown := front, finds := g.systemFinds front, limited := false }).toList ++
  [ { shown := normalized, finds := g.systemFinds normalized, limited := false }
  , { shown := normalized
      finds := g.tableFinds .referenceLocations "location_id" (· == normalized)
      limited := true }
  , { shown := text, finds := g.tableFinds .mapSystems "name" (Text.contains · normalized)
      limited := true }
  , { shown := text, finds := g.tableFinds .referenceSystems "name" (Text.contains · normalized)
      limited := true } ]

namespace NameStage

variable {stage : NameStage} {stages earlier later : List NameStage}

/-- The finds that a caller is told of. -/
def listed (stage : NameStage) : List NamedId :=
  if stage.limited then stage.finds.take partialLimit else stage.finds

/-- What comes of a stage. -/
def outcome (stage : NameStage) : Except FailureCause (Option ResolvedLocation) :=
  decide? stage.shown stage.listed

theorem outcome_of_nil (h : stage.finds = []) : stage.outcome = .ok none := by
  unfold outcome listed
  rw [h, List.take_nil, ite_self]
  rfl

/-- A single find is the answer. -/
theorem outcome_of_single {named : NamedId} (h : stage.finds = [named]) :
    stage.outcome = .ok (some { systemId := named.1, matchedName := named.2 }) := by
  have hlisted : stage.listed = [named] := by
    unfold listed
    rw [h]
    exact ite_self _
  rw [outcome, hlisted]
  rfl

/-- Of several finds none is. -/
theorem outcome_of_several (h : 2 ≤ stage.finds.length) : stage.outcome =
    .error (.ambiguousName (Text.trim stage.shown) (stage.listed.map (·.2))) := by
  have hlisted : 2 ≤ stage.listed.length := by
    unfold listed
    split
    · rw [List.length_take]
      exact Nat.le_min.mpr ⟨by decide, h⟩
    · exact h
  unfold outcome
  generalize stage.listed = listed at hlisted ⊢
  match listed, hlisted with
  | _ :: _ :: _, _ => rfl

/-- **The first stage that finds anything decides.** -/
theorem firstStage_of_first (hearlier : ∀ s ∈ earlier, s.finds = []) (h : stage.finds ≠ []) :
    firstStage ((earlier ++ stage :: later).map fun s _ => s.outcome) = stage.outcome := by
  induction earlier with
  | nil =>
    have hdecides : stage.outcome ≠ .ok none := by
      rcases hfinds : stage.finds with _ | ⟨named, _ | ⟨other, finds⟩⟩
      · exact absurd hfinds h
      · rw [outcome_of_single hfinds]
        simp
      · rw [outcome_of_several (by simp [hfinds])]
        simp
    rw [List.nil_append, List.map_cons, firstStage]
    split
    · next heq => exact heq.symm
    · next heq => exact heq.symm
    · next heq => exact absurd heq hdecides
  | cons s earlier ih =>
    rw [List.cons_append, List.map_cons, firstStage,
      outcome_of_nil (hearlier s List.mem_cons_self)]
    exact ih fun other hother => hearlier other (List.mem_cons_of_mem s hother)

theorem firstStage_of_none (h : ∀ s ∈ stages, s.finds = []) :
    firstStage (stages.map fun s _ => s.outcome) = .ok none := by
  induction stages with
  | nil => rfl
  | cons s stages ih =>
    rw [List.map_cons, firstStage, outcome_of_nil (h s List.mem_cons_self)]
    exact ih fun other hother => h other (List.mem_cons_of_mem s hother)

end NameStage

/-! ## What the stages look at -/

/-- Where a table can be read, a look through its names does not fail. -/
theorem scan_eq_ok {t : Table} (ht : g.database.table? source = some t)
    (h : t.NamesReadable order) :
    g.scan source order test = .ok (g.tableFinds source order test) := by
  have hselect : g.database.select { source, columns := ["system_id", "name"], order := [order] } =
      .ok ((Table.sortRows (t.column? order).toList t.rows).map
        (t.record ["system_id", "name"])) :=
    Database.select_eq_ok.mpr ⟨t, ht, Table.answer_sorted h.columns h.sorted⟩
  refine bind_eq_ok.mpr ⟨_, hselect, bind_eq_ok.mpr ⟨_, h.mapM_record, pure_eq_ok.mpr ?_⟩⟩
  simp only [tableFinds, Database.namedIds, ht]

variable (h : g.database.NamesReadable)

include h

theorem exactSystem_eq (name : String) : g.exactSystem name =
    NameStage.outcome { shown := name, finds := g.systemFinds name, limited := false } := by
  obtain ⟨m, hm, hmread⟩ := h.systems .mapSystems (mem_systemTables.mpr (.inl rfl))
  obtain ⟨r, hr, hrread⟩ := h.systems .referenceSystems (mem_systemTables.mpr (.inr rfl))
  unfold exactSystem
  rw [scan_eq_ok hm hmread, scan_eq_ok hr hrread]
  cases hfind : g.snapshotFind? name with
  | none =>
    have hfinds : g.systemFinds name = firstOfEach (·.1)
        (g.tableFinds .mapSystems "system_id" (· == name) ++
          g.tableFinds .referenceSystems "system_id" (· == name)) := by
      rw [systemFinds, hfind]
    unfold snapshotFind? at hfind
    rw [hfind, hfinds]
    rfl
  | some named =>
    have hfinds : g.systemFinds name = [named] := by rw [systemFinds, hfind]
    unfold snapshotFind? at hfind
    rw [hfind, hfinds]
    rfl

theorem exactLocation_eq (name : String) : g.exactLocation name =
    NameStage.outcome
      { shown := name, finds := g.tableFinds .referenceLocations "location_id" (· == name)
        limited := true } := by
  obtain ⟨t, ht, hread⟩ := h.locations
  rw [exactLocation, scan_eq_ok ht hread]
  rfl

theorem partialSystem_eq (hsource : source ∈ systemTables) (text name : String) :
    g.partialSystem source text name = NameStage.outcome
      { shown := text, finds := g.tableFinds source "name" (Text.contains · name)
        limited := true } := by
  obtain ⟨t, ht, hread⟩ := h.systems_by_name hsource
  rw [partialSystem, scan_eq_ok ht hread]
  rfl

/-- **The stages that are tried are those that tell a name.** -/
theorem firstStage_stages (text : String) :
    firstStage (g.stages text (Text.normalizeName text)) =
      firstStage ((g.nameStages text).map fun stage _ => stage.outcome) := by
  have hmapped := partialSystem_eq h (mem_systemTables.mpr (.inl rfl))
  have hreferenced := partialSystem_eq h (mem_systemTables.mpr (.inr rfl))
  unfold stages nameStages
  simp only [exactSystem_eq h, exactLocation_eq h, hmapped, hreferenced]
  unfold composite front?
  cases hfront : (Text.before? separator (Text.normalizeName text)).map Text.trim with
  | none => rfl
  | some front =>
    cases hblank : front.isEmpty with
    | true => simp [Option.filter, hblank, firstStage]
    | false => simp [Option.filter, hblank, exactSystem_eq h]

omit h

/-! ## The guarantee -/

/-- How a name is resolved, `normalized` being its normal form. -/
structure ResolvesName (g : Gazetteer) (text normalized : String) : Prop where
  blank : normalized = "" → g.resolve (.name text) = .error .emptyName
  /-- The first stage with a find decides alone, and a single find is the answer. -/
  single : normalized ≠ "" → ∀ earlier stage later named,
    g.nameStages text = earlier ++ stage :: later → (∀ s ∈ earlier, s.finds = []) →
    stage.finds = [named] →
    g.resolve (.name text) =
      .ok { systemId := named.1, locationId := none, matchedName := named.2 }
  /-- Several finds of it are ambiguous, whatever a later stage would find. -/
  several : normalized ≠ "" → ∀ earlier stage later,
    g.nameStages text = earlier ++ stage :: later → (∀ s ∈ earlier, s.finds = []) →
    2 ≤ stage.finds.length →
    g.resolve (.name text) =
      .error (.ambiguousName (Text.trim stage.shown) (stage.listed.map (·.2)))
  unknown : normalized ≠ "" → (∀ stage ∈ g.nameStages text, stage.finds = []) →
    g.resolve (.name text) =
      .error (.unknownName (Text.trim text) (g.snapshot.suggestions text suggestionLimit))
  /-- The stages that look for a whole name find systems by it, each number once. -/
  systems : ∀ name, g.FindsSystems name (g.systemFinds name)

theorem resolve_name (h : g.database.NamesReadable) (hname : Text.normalizeName text ≠ "") :
    g.resolve (.name text) =
      match firstStage ((g.nameStages text).map fun stage _ => stage.outcome) with
      | .error cause => .error cause
      | .ok (some found) => .ok found
      | .ok none =>
        .error (.unknownName (Text.trim text) (g.snapshot.suggestions text suggestionLimit)) := by
  have hgiven : (Text.normalizeName text).isEmpty = false := by simpa using hname
  rw [resolve, resolveName, firstStage_stages h]
  generalize firstStage ((g.nameStages text).map fun stage _ => stage.outcome) = found
  rcases found with _ | _ | _ <;> simp only [hgiven, Bool.false_eq_true, if_false]

/-- **A name is resolved by the first stage that finds anything**, and by that alone. -/
theorem resolvesName (h : g.database.NamesReadable) (text : String) :
    g.ResolvesName text (Text.normalizeName text) where
  blank hname := by
    rw [resolve, resolveName, hname]
    rfl
  single hname earlier stage later named hstages hearlier hfinds := by
    have hfound : stage.finds ≠ [] := hfinds ▸ List.cons_ne_nil named []
    rw [resolve_name h hname, hstages, NameStage.firstStage_of_first hearlier hfound,
      NameStage.outcome_of_single hfinds]
  several hname earlier stage later hstages hearlier hfinds := by
    have hfound : stage.finds ≠ [] := by
      intro hnone
      rw [hnone] at hfinds
      cases hfinds
    rw [resolve_name h hname, hstages, NameStage.firstStage_of_first hearlier hfound,
      NameStage.outcome_of_several hfinds]
  unknown hname hnone := by
    rw [resolve_name h hname, NameStage.firstStage_of_none hnone]
  systems := g.findsSystems

end Gazetteer

/-- Tables with two systems of one name, and a station that has all of a longer one. -/
def portTables : Database where
  mapSystems := some
    { systemsTable with rows := [[.integer 1, .text "Port", .real 0, .integer 10, .integer 7]] }
  referenceSystems := some
    { systemsTable with rows := [[.integer 2, .text " PORT", .real 0, .integer 10, .integer 7]] }
  referenceLocations := some
    { TableName.referenceLocations.emptyTable with
      rows := [[.integer 5, .text "Port — Pier", .integer 1, .text "station"]] }

/-- A resolver that looks at these tables, beside a graph without systems. -/
def portGazetteer : Gazetteer where
  database := portTables
  snapshot := .ofGraph {} {} 1

/-- What stands before the dash is ambiguous, although the whole is not. -/
theorem Gazetteer.resolvesName_port : portGazetteer.resolve (.name "port — Pier") =
    .error (.ambiguousName "port" ["Port", " PORT"]) := by
  have hreadable : portTables.NamesReadable := by
    refine ⟨fun source hsource => ?_, _, rfl, by decide, by decide, by decide⟩
    rcases mem_systemTables.mp hsource with rfl | rfl
    all_goals exact ⟨_, rfl, by decide, by decide, by decide⟩
  have hname : Text.normalizeName "port — Pier" ≠ "" := by decide +kernel
  have hfirst : (portGazetteer.nameStages "port — Pier").head?.map
      (fun stage => (Text.trim stage.shown, stage.finds, stage.limited)) =
        some ("port", [(1, "Port"), (2, " PORT")], false) := by
    decide +kernel
  obtain ⟨stage, hhead, hstage⟩ := Option.map_eq_some_iff.mp hfirst
  obtain ⟨later, hstages⟩ := List.head?_eq_some_iff.mp hhead
  obtain ⟨hshown, hfinds, hlimited⟩ : _ ∧ _ ∧ _ := by simpa only [Prod.mk.injEq] using hstage
  have hseveral := (Gazetteer.resolvesName (g := portGazetteer) hreadable "port — Pier").several
    hname [] stage later hstages nofun (by rw [hfinds]; decide)
  rw [hseveral, hshown, NameStage.listed, hlimited, hfinds]
  rfl

end StarFreight
