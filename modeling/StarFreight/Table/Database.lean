import StarFreight.Table.Basic
/-!
# Table — the database

The tables of the planner and the columns each of them has. Any of them may be
missing, and one may have been made again with other columns; readers find out
(`Store.Query`). `Database.initialized` adds the tables that are missing.
-/

namespace StarFreight

/-- The tables of the planner. -/
inductive TableName where
  /-- The systems of the graph. -/
  | mapSystems
  | mapSystemGates
  /-- All systems there are. -/
  | referenceSystems
  | referenceConstellations
  | referenceRegions
  | referenceLocations
  | avoidRules
  | engineSettings
  /-- What was added to the graph, and from where. -/
  | backfillAudit
deriving DecidableEq, Repr

namespace TableName

/-- Every table, in the order in which they are made. -/
def all : List TableName :=
  [ .mapSystems, .mapSystemGates, .referenceSystems, .referenceConstellations
  , .referenceRegions, .referenceLocations, .avoidRules, .engineSettings, .backfillAudit ]

/-- The name of a table. -/
def label : TableName → String
  | .mapSystems => "map_systems"
  | .mapSystemGates => "map_system_gates"
  | .referenceSystems => "reference_systems"
  | .referenceConstellations => "reference_constellations"
  | .referenceRegions => "reference_regions"
  | .referenceLocations => "reference_locations"
  | .avoidRules => "avoid_rules"
  | .engineSettings => "engine_settings"
  | .backfillAudit => "graph_backfill_audit"

/-- The table that a name stands for. -/
def ofLabel? (name : String) : Option TableName :=
  all.find? (·.label == name)

end TableName

/-- The tables that exist. -/
structure Database where
  mapSystems : Option Table := none
  mapSystemGates : Option Table := none
  referenceSystems : Option Table := none
  referenceConstellations : Option Table := none
  referenceRegions : Option Table := none
  referenceLocations : Option Table := none
  avoidRules : Option Table := none
  engineSettings : Option Table := none
  /-- What was added to the graph, and from where. -/
  backfillAudit : Option Table := none
deriving DecidableEq

namespace Database

/-- A table, if it exists. -/
def table? (db : Database) : TableName → Option Table
  | .mapSystems => db.mapSystems
  | .mapSystemGates => db.mapSystemGates
  | .referenceSystems => db.referenceSystems
  | .referenceConstellations => db.referenceConstellations
  | .referenceRegions => db.referenceRegions
  | .referenceLocations => db.referenceLocations
  | .avoidRules => db.avoidRules
  | .engineSettings => db.engineSettings
  | .backfillAudit => db.backfillAudit

/-- The database with a table set, or taken away. -/
def withTable (db : Database) (name : TableName) (t : Option Table) : Database :=
  match name with
  | .mapSystems => { db with mapSystems := t }
  | .mapSystemGates => { db with mapSystemGates := t }
  | .referenceSystems => { db with referenceSystems := t }
  | .referenceConstellations => { db with referenceConstellations := t }
  | .referenceRegions => { db with referenceRegions := t }
  | .referenceLocations => { db with referenceLocations := t }
  | .avoidRules => { db with avoidRules := t }
  | .engineSettings => { db with engineSettings := t }
  | .backfillAudit => { db with backfillAudit := t }

/-- A table that was set is found. -/
@[simp] theorem table?_withTable_self (db : Database) (name : TableName) (t : Option Table) :
    (db.withTable name t).table? name = t := by
  cases name <;> rfl

/-- Setting a table leaves the others alone. -/
theorem table?_withTable_of_ne (db : Database) {name other : TableName} (t : Option Table)
    (h : other ≠ name) : (db.withTable name t).table? other = db.table? other := by
  cases name <;> cases other <;> simp_all [table?, withTable]

end Database

/-- A column that needs an integer. -/
def integerColumn (name : String) : Column :=
  { name, affinity := .integer, required := true }

/-- A column that needs a text. -/
def textColumn (name : String) : Column :=
  { name, affinity := .text, required := true }

/-- A table of systems, without rows. -/
def systemsTable : Table where
  columns :=
    [ integerColumn "system_id", textColumn "name"
    , { name := "security", affinity := .real, required := true }
    , integerColumn "constellation_id", integerColumn "region_id" ]
  keyWidth := 1
  numbering := .nextFree

/-- The table that belongs under a name, without rows. -/
def TableName.emptyTable : TableName → Table
  | .mapSystems => systemsTable
  | .mapSystemGates =>
    { columns := [integerColumn "from_system_id", integerColumn "to_system_id"], keyWidth := 2 }
  | .referenceSystems => systemsTable
  | .referenceConstellations =>
    { columns := [integerColumn "constellation_id", textColumn "name", integerColumn "region_id"]
      keyWidth := 1, numbering := .nextFree }
  | .referenceRegions =>
    { columns := [integerColumn "region_id", textColumn "name"]
      keyWidth := 1, numbering := .nextFree }
  | .referenceLocations =>
    { columns :=
        [ integerColumn "location_id", textColumn "name", integerColumn "system_id"
        , textColumn "location_type" ]
      keyWidth := 1, numbering := .nextFree }
  | .avoidRules =>
    { columns :=
        [ integerColumn "id", textColumn "scope_type"
        , { name := "id_a", affinity := .integer }
        , { name := "id_b", affinity := .integer }
        , { name := "severity", affinity := .integer, default := .integer 1 }
        , { name := "hard_block", affinity := .integer, required := true, default := .integer 0 }
        , { name := "apply_pickup", affinity := .integer }
        , { name := "apply_delivery", affinity := .integer }
        , { name := "apply_transit", affinity := .integer }
        , { name := "reason", affinity := .text }
        , { name := "active", affinity := .integer, required := true, default := .integer 1 } ]
      keyWidth := 1, numbering := .nextFree }
  | .engineSettings =>
    { columns := [{ name := "key", affinity := .text }, textColumn "value"], keyWidth := 1 }
  | .backfillAudit =>
    { columns :=
        [ integerColumn "id", textColumn "entity_type", textColumn "entity_key"
        , textColumn "source", { name := "detail", affinity := .text }, textColumn "created_at" ]
      keyWidth := 1, numbering := .neverReused }

/-- The names of the columns that form the key of a table. -/
def TableName.keyColumns (name : TableName) : List String :=
  (name.emptyTable.columns.take name.emptyTable.keyWidth).map (·.name)

namespace Database

/-- The database with every missing table made. -/
def initialized (db : Database) : Database :=
  TableName.all.foldl
    (fun db name => match db.table? name with
      | some _ => db
      | none => db.withTable name (some name.emptyTable))
    db

end Database

end StarFreight
