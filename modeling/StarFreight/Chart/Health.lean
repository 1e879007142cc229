import StarFreight.Chart.Graph
/-!
# Chart — health

Whether a graph can be trusted for routing. It can not when it is empty, when
it is smaller than expected, or when a system that every complete graph
connects is missing or isolated (`Graph.defect?`).
-/

namespace StarFreight

/-- Why a graph cannot be trusted. -/
inductive HealthReason where
  /-- It has no systems or no connections. -/
  | empty
  | tooSmall
  /-- A critical system is missing or has no neighbours. -/
  | missingEdges
deriving DecidableEq, Repr

/-- The code of a reason. -/
def HealthReason.code : HealthReason → String
  | .empty => "graph_empty"
  | .tooSmall => "graph_too_small"
  | .missingEdges => "graph_missing_edges"

/-- The assessment of a graph. -/
structure Health where
  nodeCount : Nat
  edgeCount : Nat
  ready : Bool
  reason : Option HealthReason
deriving DecidableEq, Repr

/-- What a graph is held against. -/
structure GraphDemands where
  minNodes : Nat := 5000
  /-- The systems that must be there and connected. -/
  critical : List SystemId := [30000142, 30002187]
deriving DecidableEq, Repr

namespace Graph

/-- What keeps a graph from being trusted, if anything does. -/
def defect? (g : Graph) (demands : GraphDemands) : Option HealthReason :=
  if g.nodeCount = 0 ∨ g.edgeCount = 0 then some .empty
  else if g.nodeCount < demands.minNodes then some .tooSmall
  else if demands.critical.any fun id => !g.contains id || g.degree id == 0 then some .missingEdges
  else none

/-- The assessment of a graph. -/
def health (g : Graph) (demands : GraphDemands) : Health :=
  let reason := g.defect? demands
  { nodeCount := g.nodeCount, edgeCount := g.edgeCount, ready := reason.isNone, reason }

end Graph

end StarFreight
