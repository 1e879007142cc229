import StarFreight.Chart.Ascending
import StarFreight.Chart.StarSystem
import Std.Data.TreeMap
/-!
# Chart — graphs

The network as a graph: systems by their own number, and for every system its
neighbours, ascending and without repetition. A graph is made from a list of
systems and a list of arcs in any order (`Graph.ofArcs`); that neighbours are
ascending is what lets `Graph.connected` search them by halving.
-/

namespace StarFreight

/-- What stands under a number after an insertion. -/
theorem lookup_insert {α : Type} (m : Std.TreeMap Int α) (n k : Int) (a : α) :
    (m.insert n a)[k]? = if n = k then some a else m[k]? := by
  simp only [Std.TreeMap.getElem?_insert, Std.LawfulEqCmp.compare_eq_iff_eq]

/-- Systems by number; of two with one number the later counts. -/
def indexSystems (systems : List StarSystem) : Std.TreeMap SystemId StarSystem :=
  systems.foldl (fun m s => m.insert s.id s) {}

/-- An index of systems has each under its own number. -/
theorem id_of_indexSystems {systems : List StarSystem} {id : SystemId} {s : StarSystem}
    (h : (indexSystems systems)[id]? = some s) : s.id = id := by
  suffices key : ∀ m : Std.TreeMap SystemId StarSystem,
      (∀ (id : SystemId) (s : StarSystem), m[id]? = some s → s.id = id) →
        (systems.foldl (fun m s => m.insert s.id s) m)[id]? = some s → s.id = id from
    key {} (fun _ _ hs => by simp at hs) h
  clear h
  induction systems with
  | nil => exact fun m hm hs => hm id s hs
  | cons a systems ih =>
    refine fun m hm => ih (m.insert a.id a) fun k t ht => ?_
    rw [lookup_insert] at ht
    split at ht
    · next hk => exact Option.some.inj ht ▸ hk
    · exact hm k t ht

/-- A network of systems. -/
structure Graph where
  systems : Std.TreeMap SystemId StarSystem := {}
  /-- The neighbours of each system that has any, ascending. -/
  adjacency : Std.TreeMap SystemId (Array SystemId) := {}
  /-- Every system stands under its own number. -/
  keyed : ∀ (id : SystemId) (s : StarSystem), systems[id]? = some s → s.id = id := by simp

namespace Graph

/-- Adds the neighbour of one arc to the lists gathered so far. -/
def addArc (lists : Std.TreeMap SystemId (List SystemId)) (arc : SystemId × SystemId) :
    Std.TreeMap SystemId (List SystemId) :=
  lists.insert arc.1 (insertAscending arc.2 (lists.getD arc.1 []))

/-- The neighbours that a list of arcs gives each system. -/
def gather (arcs : List (SystemId × SystemId)) : Std.TreeMap SystemId (Array SystemId) :=
  (arcs.foldl addArc {}).map fun _ list => list.toArray

/-- The graph with the given systems and arcs; of two systems with one number
the later counts. -/
def ofArcs (systems : List StarSystem) (arcs : List (SystemId × SystemId)) : Graph where
  systems := indexSystems systems
  adjacency := gather arcs
  keyed := fun _ _ => id_of_indexSystems

/-- The system with a number. -/
def system? (g : Graph) (id : SystemId) : Option StarSystem :=
  g.systems[id]?

/-- Whether there is a system with a number. -/
def contains (g : Graph) (id : SystemId) : Bool :=
  g.systems.contains id

/-- The neighbours of a system, ascending. -/
def neighbours (g : Graph) (id : SystemId) : Array SystemId :=
  g.adjacency.getD id #[]

/-- How many neighbours a system has. -/
def degree (g : Graph) (id : SystemId) : Nat :=
  (g.neighbours id).size

/-- Whether `b` is a neighbour of `a`. -/
def connected (g : Graph) (a b : SystemId) : Bool :=
  searchBetween (g.neighbours a) b 0 (g.degree a)

/-- How many systems there are. -/
def nodeCount (g : Graph) : Nat :=
  g.systems.size

/-- How many arcs there are. -/
def arcCount (g : Graph) : Nat :=
  (g.adjacency.toList.map (·.2.size)).foldr (· + ·) 0

/-- How many connections there are, each counted from both of its ends. -/
def edgeCount (g : Graph) : Nat :=
  g.arcCount / 2

/-- The systems, ascending by number. -/
def systemList (g : Graph) : List StarSystem :=
  g.systems.toList.map (·.2)

/-- The arcs of gates that are open both ways: a gate counts only between two
different systems that are both known. -/
def gateArcs (known : SystemId → Bool) (gates : List (SystemId × SystemId)) :
    List (SystemId × SystemId) :=
  (gates.filter fun (a, b) => a != b && known a && known b).flatMap fun (a, b) => [(a, b), (b, a)]

/-- The graph of the given systems and gates. -/
def ofGates (systems : List StarSystem) (gates : List (SystemId × SystemId)) : Graph :=
  let g := ofArcs systems []
  ofArcs systems (gateArcs g.contains gates)

end Graph

end StarFreight
