import StarFreight.Chart.Snapshot
import StarFreight.Store.Query
import StarFreight.Text.Blank
/-!
# Store — systems and graph

Systems, gates and zone members as the tables hold them. A system is looked up
among the systems of the graph first and among all systems next; the graph is
loaded whole, after a look at whether its tables have the columns it needs.
-/

namespace StarFreight

/-- The columns of a system. -/
def systemColumns : List String :=
  ["system_id", "name", "security", "constellation_id", "region_id"]

/-- The columns of a gate. -/
def gateColumns : List String :=
  ["from_system_id", "to_system_id"]

namespace Record

/-- The system that a record of its columns holds. -/
def starSystem (record : Record) : Except StoreError StarSystem := do
  let id ← record.integer 0
  let name ← record.text 1
  let security ← record.real 2
  let constellation ← record.integer 3
  let region ← record.integer 4
  return { id, name, security, constellation, region }

/-- The two ends of a gate that a record of its columns holds. -/
def gate (record : Record) : Except StoreError (SystemId × SystemId) := do
  let a ← record.integer 0
  let b ← record.integer 1
  return (a, b)

end Record

namespace Database

/-- The systems of a table of systems, in the order of its rows. -/
def systemsOf (db : Database) (name : TableName) : Except StoreError (List StarSystem) := do
  let records ← db.select { source := name, columns := systemColumns }
  records.mapM Record.starSystem

/-- The gates. -/
def gates (db : Database) : Except StoreError (List (SystemId × SystemId)) := do
  let records ← db.select { source := .mapSystemGates, columns := gateColumns }
  records.mapM Record.gate

/-- The system with a number in a table of systems. -/
def systemIn? (db : Database) (name : TableName) (id : SystemId) :
    Except StoreError (Option StarSystem) := do
  let records ← db.select
    { source := name, columns := systemColumns, conditions := [.isInteger "system_id" id] }
  match records with
  | [] => return none
  | record :: _ => return some (← record.starSystem)

/-- The system with a number among all systems. -/
def referenceSystem? (db : Database) (id : SystemId) : Except StoreError (Option StarSystem) :=
  db.systemIn? .referenceSystems id

/-- The system with a number: the graph's, or else the one among all
systems. -/
def system? (db : Database) (id : SystemId) : Except StoreError (Option StarSystem) := do
  match ← db.systemIn? .mapSystems id with
  | some s => return some s
  | none => db.referenceSystem? id

/-- The system with a number as far as anybody knows it: a snapshot's, or else
one in the tables. -/
def knownSystem? (db : Database) (snapshot : Snapshot) (id : SystemId) :
    Except StoreError (Option StarSystem) :=
  match snapshot.system? id with
  | some s => .ok (some s)
  | none => db.system? id

/-- Whether the graph needs nothing more of a table than it has. -/
def checkGraphTable (db : Database) (name : TableName) (columns : List String) :
    Except StoreError Unit :=
  match db.table? name with
  | none => .error (.graphTableMissing name.label)
  | some t =>
    if columns.all fun column => (t.column? column).isSome then .ok ()
    else .error (.graphColumnsMissing columns name.label)

/-- The graph that the tables hold. -/
def graph (db : Database) : Except StoreError Graph := do
  db.checkGraphTable .mapSystems systemColumns
  db.checkGraphTable .mapSystemGates gateColumns
  let systems ← db.systemsOf .mapSystems
  let gates ← db.gates
  return Graph.ofGates systems gates

/-- The numbers of the systems of either table that meet a condition. -/
def systemIdsWhere (db : Database) (condition : Condition) : Except StoreError (List SystemId) := do
  let query := fun name : TableName =>
    { source := name, columns := ["system_id"], conditions := [condition] : Query }
  let records ← db.selectUnion (query .mapSystems) (query .referenceSystems)
  records.mapM (·.integer 0)

/-- Fails when a table of systems is missing or lacks its numbers or the given
column. -/
def probeSystems (db : Database) (column : String) : Except StoreError Unit := do
  let _ ← db.systemIdsWhere ⟨column, fun _ _ => false⟩
  return ()

/-- The numbers of the systems that have one of the given names, but for the
case of Latin letters and the blanks around what is given. -/
def systemIdsByNames (db : Database) (names : List String) : Except StoreError (List SystemId) := do
  db.probeSystems "name"
  let found ← names.mapM fun name => db.systemIdsWhere (.isTextAnyCase "name" (Text.trim name))
  return ascending found.flatten

/-- The numbers of the regions that have one of the given names, but for the
case of Latin letters and the blanks around what is given. -/
def regionIdsByNames (db : Database) (names : List String) : Except StoreError (List RegionId) := do
  let query := fun condition : Condition =>
    { source := .referenceRegions, columns := ["region_id"], conditions := [condition] : Query }
  let _ ← db.select (query ⟨"name", fun _ _ => false⟩)
  let found ← names.mapM fun name => do
    let records ← db.select (query (.isTextAnyCase "name" (Text.trim name)))
    records.mapM (·.integer 0)
  return ascending found.flatten

/-- The numbers of the systems of either table whose constellation or region,
named by its column, is one of the given ones. -/
def systemIdsInGroups (db : Database) (column : String) (ids : List Int) :
    Except StoreError (List SystemId) := do
  db.probeSystems column
  let found ← ids.mapM fun id => db.systemIdsWhere (.isInteger column id)
  return ascending found.flatten

end Database

end StarFreight
