/-!
# Chart — star systems

The nodes of the network: a solar system with its name, its security value
and the constellation and region it belongs to.
-/

namespace StarFreight

/-- The number of a solar system. -/
abbrev SystemId := Int

/-- The number of a constellation, a group of systems. -/
abbrev ConstellationId := Int

/-- The number of a region, a group of constellations. -/
abbrev RegionId := Int

/-- A solar system that freight can be routed through. -/
structure StarSystem where
  id : SystemId
  /-- Its name, as spelled in the records. -/
  name : String
  /-- Its security value, unrounded. -/
  security : Float
  constellation : ConstellationId
  region : RegionId
deriving DecidableEq, Inhabited

/-- The leg of a journey in which a system is visited. -/
inductive Phase where
  | pickup
  | delivery
  | transit
deriving DecidableEq, Repr

/-- The name of a phase. -/
def Phase.label : Phase → String
  | .pickup => "pickup"
  | .delivery => "delivery"
  | .transit => "transit"

end StarFreight
