import StarFreight.Avoidance.RuleSet
import StarFreight.Chart.Snapshot
import StarFreight.Search.Profile
import StarFreight.Security.Policy
/-!
# Search — steps

What a search consults, and what it decides of a single step: whether security
refuses the system entered, whether a hard rule forbids the step, and what the
step costs. A step costs 1, plus the surcharge of the class entered, plus the
penalties of the soft rules crossed.
-/

namespace StarFreight

/-- Everything a search consults. -/
structure SearchContext where
  snapshot : Snapshot
  rules : RuleSet
  policy : Policy
  profile : Profile

namespace SearchContext

/-- Whether the policy or the safest profile refuses a system in a phase. -/
def refuses (ctx : SearchContext) (next : StarSystem) (phase : Phase) : Bool :=
  !ctx.policy.allows next phase
    || (ctx.profile == .safest && ctx.policy.classify next != .highsec)

/-- Whether a hard rule forbids moving into a system in a phase. -/
def forbids (ctx : SearchContext) (current : SystemId) (next : StarSystem) (phase : Phase) : Bool :=
  ctx.rules.blocks next phase || ctx.rules.blocksLink current next.id phase

/-- Whether moving into a system in a phase is permitted. -/
def admits (ctx : SearchContext) (current : SystemId) (next : StarSystem) (phase : Phase) : Bool :=
  !ctx.refuses next phase && !ctx.forbids current next phase

/-- The cost of moving into a system in a phase. -/
def stepCost (ctx : SearchContext) (current : SystemId) (next : StarSystem) (phase : Phase) : Nat :=
  1 + ctx.profile.surcharge (ctx.policy.classify next) + ctx.rules.penalty current next phase

/-- What a search consults once nothing is forbidden. -/
def withoutHard (ctx : SearchContext) : SearchContext :=
  { ctx with rules := ctx.rules.withoutHard }

/-- Every step costs something. -/
theorem stepCost_pos (ctx : SearchContext) (current : SystemId) (next : StarSystem)
    (phase : Phase) : 0 < ctx.stepCost current next phase := by
  unfold stepCost; omega

end SearchContext

/-- The phase in which a system on the way to `goal` is entered. -/
def phaseTowards (goal next : SystemId) : Phase :=
  if next = goal then .delivery else .transit

end StarFreight
