import StarFreight.Proofs.Chart.Connections
import StarFreight.Proofs.Store.Rows
/-!
# Store — what a loading makes of the rows

Rows of gates come in any order and direction, more than once, from a system to itself or
to one that the graph does not have. What is loaded of them is a graph all the same: a row
is a connection when it leads from one system that has a row to another
(`Database.Connects`), and a connection is there from both of its ends, once
(`Snapshot.Charts`). Neighbours that are handed over by a caller are sorted alike, so
that halving finds each of them.
-/

namespace StarFreight

namespace Database

/-- Whether a row of the graph's systems has a number. -/
def ChartsSystem (db : Database) (id : SystemId) : Prop :=
  ∃ t, db.table? .mapSystems = some t ∧ ∃ row ∈ t.rows,
    t.cellIn row "system_id" = .integer id

/-- Whether a row of the graph's systems shows a system. -/
def ShowsSystem (db : Database) (s : StarSystem) : Prop :=
  ∃ t, db.table? .mapSystems = some t ∧ ∃ row ∈ t.rows, t.Shows row s

/-- Whether there is a row of a gate from one system to another. -/
def ChartsGate (db : Database) (a b : SystemId) : Prop :=
  ∃ t, db.table? .mapSystemGates = some t ∧ ∃ row ∈ t.rows, t.Joins row (a, b)

/-- Two different systems, each of which has a row, and a row of a gate in either direction
between them. -/
structure Connects (db : Database) (a b : SystemId) : Prop where
  ne : a ≠ b
  source : db.ChartsSystem a
  target : db.ChartsSystem b
  gate : db.ChartsGate a b ∨ db.ChartsGate b a

variable {db : Database} {systems : List StarSystem} {gates : List (SystemId × SystemId)}
  {a b id : SystemId}

theorem Connects.symm (h : db.Connects a b) : db.Connects b a :=
  ⟨h.ne.symm, h.target, h.source, h.gate.symm⟩

/-- Rows connect both ways. -/
theorem connects_comm : db.Connects a b ↔ db.Connects b a :=
  ⟨.symm, .symm⟩

theorem chartsSystem_iff (hsystems : db.systemsOf .mapSystems = .ok systems) :
    db.ChartsSystem id ↔ ∃ s ∈ systems, s.id = id := by
  obtain ⟨t, ht, -, hshows⟩ := systemsOf_eq_ok.mp hsystems
  simp only [ChartsSystem, ht, Option.some.injEq, exists_eq_left']
  exact exists_mem_congr hshows fun row s hs => by rw [hs.id, Cell.integer.injEq]

/-- A system of the graph is shown by a row. -/
theorem showsSystem_of_graph {g : Graph} {s : StarSystem} (hgraph : db.graph = .ok g)
    (hs : g.system? id = some s) : db.ShowsSystem s := by
  obtain ⟨systems, gates, hsystems, -, rfl⟩ := graph_eq_ok.mp hgraph
  obtain ⟨t, ht, -, hshows⟩ := systemsOf_eq_ok.mp hsystems
  obtain ⟨row, hrow, hshow⟩ := exists_mem_of_forall₂ hshows.flip (mem_of_indexSystems hs)
  exact ⟨t, ht, row, hrow, hshow⟩

theorem chartsGate_iff (hgates : db.gates = .ok gates) :
    db.ChartsGate a b ↔ (a, b) ∈ gates := by
  obtain ⟨t, ht, -, hjoins⟩ := gates_eq_ok.mp hgates
  simp only [ChartsGate, ht, Option.some.injEq, exists_eq_left']
  have hrow : (∃ row ∈ t.rows, t.Joins row (a, b)) ↔ ∃ gate ∈ gates, gate = (a, b) := by
    refine exists_mem_congr hjoins fun row gate hgate => ?_
    constructor
    · intro hrow
      exact Prod.ext (Cell.integer.inj (hgate.source.symm.trans hrow.source))
        (Cell.integer.inj (hgate.target.symm.trans hrow.target))
    · rintro rfl
      exact hgate
  rw [hrow, exists_eq_right]

/-- **Neighbours in the graph are what the rows connect.** -/
theorem mem_neighbours_iff_connects (hsystems : db.systemsOf .mapSystems = .ok systems)
    (hgates : db.gates = .ok gates) :
    b ∈ (Graph.ofGates systems gates).neighbours a ↔ db.Connects a b := by
  rw [Graph.mem_neighbours_ofGates, ← chartsSystem_iff hsystems, ← chartsSystem_iff hsystems,
    ← chartsGate_iff hgates, ← chartsGate_iff hgates]
  exact ⟨fun ⟨hne, ha, hb, hgate⟩ => ⟨hne, ha, hb, hgate⟩,
    fun h => ⟨h.ne, h.source, h.target, h.gate⟩⟩

end Database

/-- A snapshot that holds the graph of the rows of a database. -/
structure Snapshot.Charts (snapshot : Snapshot) (db : Database) : Prop where
  symmetric : ∀ a b, b ∈ snapshot.neighbours a → a ∈ snapshot.neighbours b
  irreflexive : ∀ a, a ∉ snapshot.neighbours a
  ascending : ∀ a, (snapshot.neighbours a).Pairwise (· < ·)
  /-- A system that has neighbours, or is one, is a system of the graph. -/
  known : ∀ a b, b ∈ snapshot.neighbours a →
    snapshot.contains a = true ∧ snapshot.contains b = true
  contains : ∀ a, snapshot.contains a = true ↔ db.ChartsSystem a
  neighbours : ∀ a b, b ∈ snapshot.neighbours a ↔ db.Connects a b
  connected : ∀ a b, snapshot.graph.connected a b = true ↔ db.Connects a b
  undirected : ∀ a b, snapshot.graph.connected a b = snapshot.graph.connected b a
  degrees : (snapshot.graph.systemList.map fun s => snapshot.graph.degree s.id).sum =
    2 * snapshot.health.edgeCount
  /-- As many connections are counted as there are pairs of systems connected. -/
  counted : {pair : Sym2 SystemId | ∃ a b, pair = s(a, b) ∧ db.Connects a b}.encard =
    snapshot.health.edgeCount

namespace Snapshot

variable {db : Database} {systems : List StarSystem} {gates : List (SystemId × SystemId)}

/-- The snapshot of the systems and gates that are read of a database charts its rows. -/
theorem charts_ofGraph (hsystems : db.systemsOf .mapSystems = .ok systems)
    (hgates : db.gates = .ok gates) (demands : GraphDemands) (generation : Nat) :
    (ofGraph (.ofGates systems gates) demands generation).Charts db := by
  have hneighbours : ∀ a b,
      b ∈ (ofGraph (.ofGates systems gates) demands generation).neighbours a ↔
        db.Connects a b := fun a b =>
    Array.mem_toList_iff.trans (Database.mem_neighbours_iff_connects hsystems hgates)
  have hcontains : ∀ a, (ofGraph (.ofGates systems gates) demands generation).contains a = true ↔
      db.ChartsSystem a := fun a =>
    Graph.contains_ofGates.trans (Database.chartsSystem_iff hsystems).symm
  have hconnected : ∀ a b, (Graph.ofGates systems gates).connected a b = true ↔
      db.Connects a b := fun a b =>
    Graph.connected_ofGates.trans (Database.mem_neighbours_iff_connects hsystems hgates)
  constructor
  case symmetric => exact fun a b h => (hneighbours b a).mpr ((hneighbours a b).mp h).symm
  case irreflexive => exact fun a h => ((hneighbours a a).mp h).ne rfl
  case ascending => exact fun a => Graph.pairwise_neighbours_ofArcs
  case known =>
    intro a b h
    have hlink := (hneighbours a b).mp h
    exact ⟨(hcontains a).mpr hlink.source, (hcontains b).mpr hlink.target⟩
  case contains => exact hcontains
  case neighbours => exact hneighbours
  case connected => exact hconnected
  case undirected =>
    intro a b
    rw [Bool.eq_iff_iff]
    exact (hconnected a b).trans (Database.connects_comm.trans (hconnected b a).symm)
  case degrees => exact Graph.sum_degree_ofGates
  case counted =>
    refine Eq.trans ?_ Graph.encard_pairs_ofGates
    simp only [Graph.pairs, Database.mem_neighbours_iff_connects hsystems hgates]

/-- A snapshot of the graph of a database charts its rows. -/
theorem charts_of_graph {g : Graph} (hgraph : db.graph = .ok g) (demands : GraphDemands)
    (generation : Nat) : (ofGraph g demands generation).Charts db := by
  obtain ⟨systems, gates, hsystems, hgates, rfl⟩ := Database.graph_eq_ok.mp hgraph
  exact charts_ofGraph hsystems hgates demands generation

/-- **What is loaded is a graph.** Whatever the rows of its two tables are, as long as they
can be read, the graph can be loaded, and every snapshot of it charts the rows: neighbours
are ascending, go both ways and lead elsewhere, to systems that the graph has; two systems
are connected when the rows connect them; and connections are counted once each, twice
over all degrees. And neighbours that a caller hands over, in any order and with any
repetitions, are connected as their lists say. -/
theorem graph_charts :
    (∀ (db : Database) (systems : List StarSystem) (gates : List (SystemId × SystemId)),
      db.systemsOf .mapSystems = .ok systems → db.gates = .ok gates →
        ∃ g, db.graph = .ok g ∧ ∀ demands generation, (ofGraph g demands generation).Charts db) ∧
    ∀ (systems : List StarSystem) (lists : Std.TreeMap SystemId (List SystemId))
      (demands : GraphDemands) (generation : Nat) (a b : SystemId),
      (ofGraph (.ofArcs systems (Graph.listedArcs lists)) demands generation).graph.connected a b =
        true ↔ b ∈ lists.getD a [] := by
  refine ⟨fun db systems gates hsystems hgates => ?_, fun systems lists _ _ a b => ?_⟩
  · exact ⟨_, Database.graph_eq_ok.mpr ⟨systems, gates, hsystems, hgates, rfl⟩,
      charts_ofGraph hsystems hgates⟩
  · exact Graph.connected_listedArcs

end Snapshot

/-! ## Rows with little order -/

/-- A system of a quay. -/
def quaySystem (id : SystemId) (name : String) : StarSystem where
  id
  name
  security := 0
  constellation := 10
  region := 7

/-- Its gates: one in both directions, one that does not move and one that leads nowhere. -/
def quayGates : List (SystemId × SystemId) :=
  [(3, 2), (2, 1), (1, 2), (3, 3), (2, 9)]

/-- The tables of a quay. -/
def quayTables : Database where
  mapSystems := some
    { systemsTable with
      rows :=
        [ [.integer 1, .text "Berth", .real 0, .integer 10, .integer 7]
        , [.integer 2, .text "Crane", .real 0, .integer 10, .integer 7]
        , [.integer 3, .text "Dock", .real 0, .integer 10, .integer 7] ] }
  mapSystemGates := some
    { TableName.mapSystemGates.emptyTable with
      rows := quayGates.map fun gate => [.integer gate.1, .integer gate.2] }

/-- Two connections are left of five gates. -/
theorem Snapshot.graph_charts_quay :
    ∃ systems, quayTables.systemsOf .mapSystems = .ok systems ∧
      quayTables.gates = .ok quayGates ∧ ∃ g, quayTables.graph = .ok g ∧
        (Snapshot.ofGraph g {} 1).Charts quayTables ∧
        (Snapshot.ofGraph g {} 1).neighbours 2 = [1, 3] ∧
        (Snapshot.ofGraph g {} 1).health.edgeCount = 2 := by
  have hsystems : quayTables.systemsOf .mapSystems =
      .ok [quaySystem 1 "Berth", quaySystem 2 "Crane", quaySystem 3 "Dock"] :=
    Database.systemsOf_eq_ok.mpr ⟨_, rfl, by decide,
      .cons ⟨rfl, rfl, rfl, rfl, rfl⟩ <| .cons ⟨rfl, rfl, rfl, rfl, rfl⟩ <|
        .cons ⟨rfl, rfl, rfl, rfl, rfl⟩ .nil⟩
  have hgates : quayTables.gates = .ok quayGates :=
    Database.gates_eq_ok.mpr ⟨_, rfl, by decide,
      .cons ⟨rfl, rfl⟩ <| .cons ⟨rfl, rfl⟩ <| .cons ⟨rfl, rfl⟩ <| .cons ⟨rfl, rfl⟩ <|
        .cons ⟨rfl, rfl⟩ .nil⟩
  obtain ⟨g, hg, hcharts⟩ := Snapshot.graph_charts.1 quayTables _ _ hsystems hgates
  obtain ⟨systems', gates', hsystems', hgates', rfl⟩ := Database.graph_eq_ok.mp hg
  obtain rfl := Except.ok.inj (hsystems.symm.trans hsystems')
  obtain rfl := Except.ok.inj (hgates.symm.trans hgates')
  exact ⟨_, hsystems, hgates, _, hg, hcharts {} 1, by decide +kernel, by decide +kernel⟩

end StarFreight
