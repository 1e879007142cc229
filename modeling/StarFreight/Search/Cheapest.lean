import StarFreight.Chart.Numbered
import StarFreight.Search.Frontier
import StarFreight.Search.Step
import Std.Data.TreeSet
/-!
# Search — cheapest routes

The cheapest route between two systems by Dijkstra's algorithm. A search holds
a label for every system reached, with its cost and the system it was reached
from, and goes on from the cheapest entry of the frontier that no cheaper one
has overtaken (`Search.advance`). Nothing is marked as visited: an overtaken
entry is known by the label of its system, which costs less. Neighbours are
visited in ascending order and a label changes only for a strictly smaller
cost, so the route found does not depend on anything but the graph. Every
round takes one entry off the frontier, and there are never more entries than
arcs, which bounds the rounds (`SearchContext.rounds`).
-/

namespace StarFreight

/-- How a system was reached. -/
structure Label where
  cost : Nat
  /-- The system it was reached from; none for the start. -/
  parent : Option SystemId
deriving DecidableEq, Repr

/-- A search under way. -/
structure Search where
  labels : Std.TreeMap SystemId Label
  frontier : Frontier
  /-- The systems that security refused. -/
  excluded : Std.TreeSet SystemId := {}

/-- A route found by a search. -/
structure RouteFound where
  path : List SystemId
  cost : Nat
  /-- How many systems security refused on the way. -/
  excluded : Nat
deriving DecidableEq, Repr

namespace Search

/-- The search that has reached nothing but its start. -/
def start (s : SystemId) : Search where
  labels := ({} : Std.TreeMap SystemId Label).insert s ⟨0, none⟩
  frontier := [⟨s, 0⟩]

/-- Reaches a system from another at a cost, unless it was reached as cheaply
before. -/
def reach (state : Search) (source next : SystemId) (cost : Nat) : Search :=
  let better := match state.labels[next]? with
    | none => true
    | some label => cost < label.cost
  if better then
    { state with
      labels := state.labels.insert next ⟨cost, some source⟩
      frontier := Frontier.insert ⟨next, cost⟩ state.frontier }
  else state

/-- Looks from a system reached at a cost at one of its neighbours. -/
def visit (ctx : SearchContext) (s goal current : SystemId) (cost : Nat) (state : Search)
    (next : SystemId) : Search :=
  if next = s then state
  else
    match ctx.snapshot.system? next with
    | none => state
    | some target =>
      let phase := phaseTowards goal next
      if ctx.refuses target phase then { state with excluded := state.excluded.insert target.id }
      else if ctx.forbids current target phase then state
      else state.reach current next (cost + ctx.stepCost current target phase)

/-- Goes on from a system reached at a cost: looks at all its neighbours. -/
def expand (ctx : SearchContext) (s goal current : SystemId) (cost : Nat) (state : Search) :
    Search :=
  (ctx.snapshot.neighbours current).foldl (visit ctx s goal current cost) state

/-- What one round of a search leads to. -/
inductive Round where
  /-- The goal is the cheapest entry, reached at this cost. -/
  | arrived (cost : Nat) (state : Search)
  | onward (state : Search)
  /-- There is nothing to go on from. -/
  | exhausted

/-- Takes the cheapest entry off the frontier. An entry that costs more than the
label of its system was overtaken by a cheaper one and is dropped. -/
def advance (ctx : SearchContext) (s goal : SystemId) (state : Search) : Round :=
  match state.frontier with
  | [] => .exhausted
  | entry :: rest =>
    let state := { state with frontier := rest }
    match state.labels[entry.node]? with
    | none => .onward state
    | some label =>
      if label.cost < entry.cost then .onward state
      else if entry.node = goal then .arrived label.cost state
      else .onward (expand ctx s goal entry.node label.cost state)

/-- Runs a search for at most the given number of rounds. -/
def run (ctx : SearchContext) (s goal : SystemId) : Nat → Search → Option (Nat × Search)
  | 0, _ => none
  | rounds + 1, state =>
    match advance ctx s goal state with
    | .arrived cost state => some (cost, state)
    | .onward state => run ctx s goal rounds state
    | .exhausted => none

/-- The systems from the start to a labelled system, in front of `behind`,
read off the labels in at most the given number of steps. -/
def trace (labels : Std.TreeMap SystemId Label) : Nat → SystemId → List SystemId → List SystemId
  | steps, node, behind =>
    match labels[node]? with
    | none => node :: behind
    | some label =>
      match label.parent, steps with
      | some parent, steps + 1 => trace labels steps parent (node :: behind)
      | _, _ => node :: behind

end Search

namespace SearchContext

/-- A bound on the rounds of a search: one for the start, one for every arc,
and one to find the frontier empty. -/
def rounds (ctx : SearchContext) : Nat :=
  ctx.snapshot.graph.arcCount + 2

/-- The cheapest route from `s` to `goal`. That cargo may be loaded at `s` is
not asked; that it may be unloaded at `goal` is, when the goal is entered. -/
def findRoute (ctx : SearchContext) (s goal : SystemId) : Option RouteFound :=
  if s = goal then
    if ctx.snapshot.contains s then some { path := [s], cost := 0, excluded := 0 } else none
  else
    (Search.run ctx s goal ctx.rounds (Search.start s)).map fun (cost, state) =>
      { path := Search.trace state.labels cost goal [], cost, excluded := state.excluded.size }

end SearchContext

/-- The soft rules crossed by each step along a path of systems, the last step
being the delivery. -/
def softHitsAlong (rules : RuleSet) : List StarSystem → List AvoidRule
  | a :: b :: rest =>
    let phase := if rest.isEmpty then Phase.delivery else Phase.transit
    rules.softHits a.id b phase ++ softHitsAlong rules (b :: rest)
  | _ => []

/-- The soft rules crossed along a path of systems, each once, in the order in
which they are first met. -/
def softRulesOnPath (rules : RuleSet) (systems : List StarSystem) : List AvoidRule :=
  firstOfEach (·.id) (softHitsAlong rules systems)

end StarFreight
