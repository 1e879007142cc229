import StarFreight.Proofs.Location.Stages
import StarFreight.Proofs.Store.Charting
import StarFreight.Proofs.Store.Union
import StarFreight.Proofs.Text.Names
/-!
# Location — zones and their names

A zone lists its systems and regions by name, and a caller gives a system by
name as well. The two are matched apart: a table compares a row's name as it
stands, but for the case of ASCII letters, with what is listed (`mem_iff`), and a
resolver compares the words of both in lower case. Everything that a zone takes
in by a name has that name to a resolver (`sound`). The converse fails for names
with capitals outside ASCII or with blanks to spare; it holds for plain ones
(`complete`), and for no others but where a listed spelling happens to hit the
row (`exact_iff`).
-/

namespace StarFreight

open Text (PlainName asciiLower normalizeName)

namespace Database

/-- Whether one of some tables has a row with a number and a name. -/
def GoesBy (db : Database) (sources : List TableName) (key : String) (id : Int) (name : String) :
    Prop :=
  ∃ source ∈ sources, ∃ t, db.table? source = some t ∧ ∃ row ∈ t.rows,
    t.cellIn row key = .integer id ∧ (t.cellIn row "name").text? = some name

end Database

/-- How the numbers that go by some names were found among what goes by which name. -/
structure FoundByName (goesBy : Int → String → Prop) (names : List String) (ids : List Int) :
    Prop where
  mem_iff : ∀ id, id ∈ ids ↔ ∃ listed ∈ names, ∃ name, goesBy id name ∧
    asciiLower name = asciiLower (Text.trim listed)
  /-- What is found has a listed name. -/
  sound : ∀ id ∈ ids, ∃ listed ∈ names, ∃ name, goesBy id name ∧
    normalizeName name = normalizeName listed
  /-- What has a listed name is found, if both spellings are plain. -/
  complete : ∀ id name, ∀ listed ∈ names, goesBy id name →
    normalizeName name = normalizeName listed → PlainName name → PlainName (Text.trim listed) →
    id ∈ ids
  /-- What is found is all that has a listed name exactly when each of it has some name
  that is listed letter by letter. -/
  exact_iff : (∀ id, id ∈ ids ↔ ∃ listed ∈ names, ∃ name, goesBy id name ∧
      normalizeName name = normalizeName listed) ↔
    ∀ id name, ∀ listed ∈ names, goesBy id name → normalizeName name = normalizeName listed →
      ∃ other ∈ names, ∃ spelled, goesBy id spelled ∧
        asciiLower spelled = asciiLower (Text.trim other)

/-- **What is found letter by letter is found by name**, and all of it if it is plain. -/
theorem FoundByName.of_mem_iff {goesBy : Int → String → Prop} {names : List String}
    {ids : List Int} (h : ∀ id, id ∈ ids ↔ ∃ listed ∈ names, ∃ name, goesBy id name ∧
      asciiLower name = asciiLower (Text.trim listed)) : FoundByName goesBy names ids := by
  have hsound : ∀ id ∈ ids, ∃ listed ∈ names, ∃ name, goesBy id name ∧
      normalizeName name = normalizeName listed := by
    intro id hid
    obtain ⟨listed, hlisted, name, hname, hsame⟩ := (h id).mp hid
    refine ⟨listed, hlisted, name, hname, ?_⟩
    rw [Text.normalizeName_eq_of_asciiLower_eq hsame, Text.normalizeName_trim]
  refine ⟨h, hsound, fun id name listed hlisted hname hsame hplain hplain' => ?_, ?_⟩
  · refine (h id).mpr ⟨listed, hlisted, name, hname, (hplain.asciiLower_eq_iff hplain').mpr ?_⟩
    rw [Text.normalizeName_trim, hsame]
  · constructor
    · intro hexact id name listed hlisted hname hsame
      exact (h id).mp ((hexact id).mpr ⟨listed, hlisted, name, hname, hsame⟩)
    · rintro hspelled id
      refine ⟨hsound id, ?_⟩
      rintro ⟨listed, hlisted, name, hname, hsame⟩
      exact (h id).mpr (hspelled id name listed hlisted hname hsame)

namespace Database

variable {db : Database} {names : List String} {ids : List Int} {c : Condition}
  {source : TableName} {key s : String} {id : Int}

/-- A cell has a text but for the case of ASCII letters. -/
theorem holds_isTextAnyCase {column : String} {affinity : Affinity} {cell : Cell} :
    (Condition.isTextAnyCase column s).holds affinity cell = true ↔
      ∃ name, cell.text? = some name ∧ asciiLower name = asciiLower s := by
  cases htext : cell.text? <;> simp [Condition.isTextAnyCase, htext]

theorem hasRow_name_iff : db.HasRow id "name" (Condition.isTextAnyCase "name" s).holds ↔
    ∃ name, db.GoesBy systemTables "system_id" id name ∧ asciiLower name = asciiLower s := by
  simp only [HasRow, GoesBy, holds_isTextAnyCase]
  constructor
  · rintro ⟨source, hsource, t, ht, row, hrow, hid, name, hname, hsame⟩
    exact ⟨name, ⟨source, hsource, t, ht, row, hrow, hid, hname⟩, hsame⟩
  · rintro ⟨name, ⟨source, hsource, t, ht, row, hrow, hid, hname⟩, hsame⟩
    exact ⟨source, hsource, t, ht, row, hrow, hid, name, hname, hsame⟩

/-- **The systems found by names** are those of either table that are spelled so. -/
theorem foundByName_systems (hstorable : db.Storable) (h : db.systemIdsByNames names = .ok ids) :
    FoundByName (db.GoesBy systemTables "system_id") names ids := by
  obtain ⟨_, -, h⟩ := bind_eq_ok.mp h
  obtain ⟨found, hfound, h⟩ := bind_eq_ok.mp h
  obtain rfl := pure_eq_ok.mp h
  refine .of_mem_iff fun id => ?_
  rw [mem_ascending, List.mem_flatten]
  exact (exists_mem_congr (mapM_eq_ok.mp hfound) fun listed ns hns =>
    hasRow_name_iff.symm.trans (mem_systemIdsWhere hstorable hns id).symm).symm

/-- The numbers that are read of the rows of a table that meet a condition. -/
theorem mem_of_select (h : (db.select { source, columns := [key], conditions := [c] } >>=
      fun records => records.mapM (·.integer 0)) = .ok ids) (id : Int) : id ∈ ids ↔
    ∃ t, db.table? source = some t ∧ ∃ row ∈ t.rows,
      t.meets row c = true ∧ t.cellIn row key = .integer id := by
  obtain ⟨records, hrecords, hread⟩ := bind_eq_ok.mp h
  obtain ⟨t, ht, hanswer⟩ := select_eq_ok.mp hrecords
  obtain ⟨-, -, rfl⟩ := (Table.answer_eq_ok rfl).mp hanswer
  rw [mapM_eq_ok, List.forall₂_map_left_iff] at hread
  have hrows : id ∈ ids ↔ ∃ row ∈ t.rows.filter fun row => [c].all (t.meets row),
      t.cellIn row key = .integer id := by
    rw [exists_mem_congr (Q := (· = id)) hread fun row n hn => ?_, exists_eq_right]
    rw [Record.integer_eq_ok, Table.cell_record rfl] at hn
    rw [hn, Cell.integer.injEq]
  have htable : db.table? source = some t := ht
  rw [hrows, htable]
  simp only [List.mem_filter, List.all_cons, List.all_nil, Bool.and_true, and_assoc,
    Option.some.injEq, exists_eq_left']

/-- **The regions found by names** are those that are spelled so. -/
theorem foundByName_regions (h : db.regionIdsByNames names = .ok ids) :
    FoundByName (db.GoesBy [.referenceRegions] "region_id") names ids := by
  obtain ⟨_, -, h⟩ := bind_eq_ok.mp h
  obtain ⟨found, hfound, h⟩ := bind_eq_ok.mp h
  obtain rfl := pure_eq_ok.mp h
  refine .of_mem_iff fun id => ?_
  rw [mem_ascending, List.mem_flatten]
  refine (exists_mem_congr (mapM_eq_ok.mp hfound) fun listed ns hns => ?_).symm
  simp only [mem_of_select hns id, GoesBy, List.mem_singleton, exists_eq_left]
  constructor
  · rintro ⟨name, ⟨t, ht, row, hrow, hid, hname⟩, hsame⟩
    exact ⟨t, ht, row, hrow, holds_isTextAnyCase.mpr ⟨name, hname, hsame⟩, hid⟩
  · rintro ⟨t, ht, row, hrow, hholds, hid⟩
    obtain ⟨name, hname, hsame⟩ := holds_isTextAnyCase.mp hholds
    exact ⟨name, ⟨t, ht, row, hrow, hid, hname⟩, hsame⟩

/-- Where names can be read, the systems that have some can be found. -/
theorem NamesReadable.exists_systemIdsByNames (h : db.NamesReadable) (names : List String) :
    ∃ ids, db.systemIdsByNames names = .ok ids := by
  obtain ⟨m, hm, hmread⟩ := h.systems .mapSystems (mem_systemTables.mpr (.inl rfl))
  obtain ⟨r, hr, hrread⟩ := h.systems .referenceSystems (mem_systemTables.mpr (.inr rfl))
  have hinteger : ∀ t : Table, t.NamesReadable "system_id" → ∀ c, ∀ cell ∈ t.idCells c,
      ∃ n, cell = .integer n := by
    intro t ht c cell hcell
    obtain ⟨row, hrow, -, rfl⟩ := Table.mem_idCells.mp hcell
    obtain ⟨named, hnamed⟩ := Option.isSome_iff_exists.mp (ht.rows row hrow)
    exact ⟨named.1, (Table.namedId?_eq_some.mp hnamed).1⟩
  have hwhere : ∀ holds, ∃ ids, db.systemIdsWhere ⟨"name", holds⟩ = .ok ids := by
    intro holds
    refine exists_systemIdsWhere_eq_ok hm hr hmread.columns hrread.columns fun cell hcell => ?_
    rcases List.mem_append.mp hcell with hcell | hcell
    · exact hinteger m hmread _ cell hcell
    · exact hinteger r hrread _ cell hcell
  obtain ⟨probed, hprobed⟩ := hwhere fun _ _ => false
  have heach : ∀ name ∈ names, ∃ ids,
      db.systemIdsWhere (.isTextAnyCase "name" (Text.trim name)) = .ok ids :=
    fun name _ => hwhere _
  obtain ⟨found, hfound⟩ := exists_mapM_eq_ok heach
  exact ⟨_, bind_eq_ok.mpr ⟨(), bind_eq_ok.mpr ⟨probed, hprobed, rfl⟩,
    bind_eq_ok.mpr ⟨found, hfound, rfl⟩⟩⟩

/-- What is listed of a table goes by its name. -/
theorem goesBy_of_mem_namedIds {order : String} {named : NamedId} (hsource : source ∈ systemTables)
    (h : named ∈ db.namedIds source order) :
    db.GoesBy systemTables "system_id" named.1 named.2 := by
  obtain ⟨t, ht, row, hrow, hid, hname⟩ := mem_namedIds.mp h
  exact ⟨source, hsource, t, ht, row, hrow, hid, by rw [hname]; rfl⟩

/-- A system of the graph goes by its name. -/
theorem goesBy_of_graph {graph : Graph} {s : StarSystem} (hgraph : db.graph = .ok graph)
    (hs : s ∈ graph.systemList) : db.GoesBy systemTables "system_id" s.id s.name := by
  obtain ⟨t, ht, row, hrow, hshown⟩ :=
    showsSystem_of_graph hgraph (Graph.system?_of_mem_systemList hs)
  exact ⟨.mapSystems, mem_systemTables.mpr (.inl rfl), t, ht, row, hrow, hshown.id,
    by rw [hshown.name]; rfl⟩

end Database

/-! ## Zones and places -/

namespace Gazetteer

variable {g : Gazetteer} {text : String} {named : NamedId} {found : ResolvedLocation}

/-- A resolver whose snapshot was made of the tables that it looks at. -/
def Current (g : Gazetteer) : Prop :=
  ∃ graph demands generation, g.database.graph = .ok graph ∧
    g.snapshot = .ofGraph graph demands generation

/-- **A system that is found by a plain name has a row with a name that is the same.** -/
theorem goesBy_of_mem_systemFinds (hcurrent : g.Current) (hplain : PlainName (Text.trim text))
    (h : named ∈ g.systemFinds (normalizeName text)) :
    g.database.GoesBy systemTables "system_id" named.1 named.2 ∧
      normalizeName named.2 = normalizeName text := by
  have hfinds := g.findsSystems (normalizeName text)
  cases hfind : g.snapshotFind? (normalizeName text) with
  | none =>
    obtain ⟨source, hsource, hnamed, hname⟩ := hfinds.stored hfind named h
    exact ⟨Database.goesBy_of_mem_namedIds hsource hnamed, hname⟩
  | some other =>
    obtain rfl := List.mem_singleton.mp (hfinds.hit other hfind ▸ h)
    obtain ⟨graph, demands, generation, hgraph, hsnapshot⟩ := hcurrent
    obtain ⟨s, hs, rfl, hname⟩ := (snapshotFind?_ofGraph hsnapshot).1 named hfind
    refine ⟨Database.goesBy_of_graph hgraph hs, hname.trans ?_⟩
    -- the snapshot takes the normal form of what is in normal form already
    rw [← Text.normalizeName_trim text, hplain, Text.normalizeName_asciiLower, hplain]

/-- An answer is the only find. -/
theorem finds_of_decide? {name : String} {finds : List NamedId}
    (h : decide? name finds = .ok (some found)) :
    finds = [(found.systemId, found.matchedName)] := by
  match finds, h with
  | [(id, matched)], h =>
    obtain rfl := Option.some.inj (Except.ok.inj h)
    rfl

/-- What is found by its whole name is a system of that name. -/
theorem mem_systemFinds_of_exactSystem (hreadable : g.database.NamesReadable) {name : String}
    (h : g.exactSystem name = .ok (some found)) :
    (found.systemId, found.matchedName) ∈ g.systemFinds name := by
  have hdecide : decide? name (g.systemFinds name) = .ok (some found) := by
    rw [← h, exactSystem_eq hreadable]
    rfl
  rw [finds_of_decide? hdecide]
  exact List.mem_singleton_self _

end Gazetteer

/-- How the tables of a database name what is in zones. -/
structure Database.NamesZones (db : Database) : Prop where
  systems : ∀ names ids, db.systemIdsByNames names = .ok ids →
    FoundByName (db.GoesBy systemTables "system_id") names ids
  regions : ∀ names ids, db.regionIdsByNames names = .ok ids →
    FoundByName (db.GoesBy [.referenceRegions] "region_id") names ids
  returns : db.NamesReadable → ∀ names, ∃ ids, db.systemIdsByNames names = .ok ids
  /-- A system that a resolver finds under a spelling is in a zone that lists that spelling,
  if this and its own name are plain. -/
  located : db.NamesReadable → ∀ g : Gazetteer, g.database = db → g.Current →
    ∀ text found, g.exactSystem (normalizeName text) = .ok (some found) →
      PlainName (Text.trim text) → PlainName found.matchedName →
      ∀ names ids, text ∈ names → db.systemIdsByNames names = .ok ids → found.systemId ∈ ids

/-- **Zones take in by a name what has it letter by letter**, and so nothing that has not
this name to a resolver, and of plain names everything that has. -/
theorem Database.namesZones {db : Database} (h : db.Storable) : db.NamesZones where
  systems _ _ hids := foundByName_systems h hids
  regions _ _ hids := foundByName_regions hids
  returns hreadable := hreadable.exists_systemIdsByNames
  located := by
    rintro hreadable g rfl hcurrent text found hfound htext hmatched names ids hlisted hids
    obtain ⟨hname, hsame⟩ := Gazetteer.goesBy_of_mem_systemFinds hcurrent htext
      (Gazetteer.mem_systemFinds_of_exactSystem hreadable hfound)
    exact (foundByName_systems h hids).complete _ _ text hlisted hname hsame hmatched htext

/-- Of the two systems of a name, only the one without a blank in front is found by it. -/
theorem Database.namesZones_port : portTables.Storable ∧ portTables.NamesZones ∧
    (portTables.systemIdsByNames ["PORT"]).toOption = some [1] := by
  have hstorable : portTables.Storable := by
    intro source t ht
    cases source with
    | mapSystems | referenceSystems | referenceLocations =>
      obtain rfl := Option.some.inj ht
      decide
    | _ => cases ht
  exact ⟨hstorable, Database.namesZones hstorable, by decide +kernel⟩

/-- Tables with a system whose name begins with a capital outside ASCII. -/
def skerryTables : Database :=
  { portTables with
    mapSystems := some
      { systemsTable with rows := [[.integer 1, .text "Éire", .real 0, .integer 10, .integer 7]] }
    referenceSystems := some systemsTable }

/-- A resolver that looks at these tables. -/
def skerryGazetteer : Gazetteer :=
  { portGazetteer with database := skerryTables }

/-- A resolver finds the only system by a spelling that puts it in no zone. -/
theorem Database.misses_skerry :
    (skerryGazetteer.exactSystem (normalizeName "éire")).toOption =
        some (some { systemId := 1, matchedName := "Éire" }) ∧
      (skerryTables.systemIdsByNames ["éire"]).toOption = some [] ∧
      skerryTables.GoesBy systemTables "system_id" 1 "Éire" ∧
      normalizeName "Éire" = normalizeName "éire" := by
  refine ⟨by decide +kernel, by decide +kernel, ?_, by decide +kernel⟩
  exact ⟨.mapSystems, by decide, _, rfl, _, List.mem_singleton_self _, rfl, rfl⟩

end StarFreight
