import StarFreight.Chart.Health
import StarFreight.Text.Name
/-!
# Chart — snapshots

A graph as it stood at one loading: with its assessment, the number of that
loading, and an index of its systems by normalized name.
-/

namespace StarFreight

/-- A graph together with what is derived from it once. -/
structure Snapshot where
  graph : Graph
  names : Std.TreeMap String SystemId
  health : Health
  /-- The number of the loading it comes from, from 1 on. -/
  generation : Nat

namespace Snapshot

/-- The index of systems by normalized name. -/
def indexNames (systems : List StarSystem) : Std.TreeMap String SystemId :=
  systems.foldl (fun names s => names.insert (Text.normalizeName s.name) s.id) {}

/-- The snapshot of a graph. -/
def ofGraph (g : Graph) (demands : GraphDemands) (generation : Nat) : Snapshot where
  graph := g
  names := indexNames g.systemList
  health := g.health demands
  generation := generation

/-- The system with a number. -/
def system? (snapshot : Snapshot) (id : SystemId) : Option StarSystem :=
  snapshot.graph.system? id

/-- Whether there is a system with a number. -/
def contains (snapshot : Snapshot) (id : SystemId) : Bool :=
  snapshot.graph.contains id

/-- A graph contains the systems that it has. -/
theorem contains_eq_isSome (snapshot : Snapshot) (id : SystemId) :
    snapshot.contains id = (snapshot.system? id).isSome :=
  Std.TreeMap.contains_eq_isSome_getElem?

/-- The neighbours of a system, ascending. -/
def neighbours (snapshot : Snapshot) (id : SystemId) : List SystemId :=
  (snapshot.graph.neighbours id).toList

/-- The number of the system with a name, however it is spelled. -/
def idByName? (snapshot : Snapshot) (name : String) : Option SystemId :=
  snapshot.names[Text.normalizeName name]?

/-- The name of the system with a number. -/
def name? (snapshot : Snapshot) (id : SystemId) : Option String :=
  (snapshot.system? id).map (·.name)

end Snapshot

end StarFreight
