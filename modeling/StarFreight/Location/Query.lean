import StarFreight.Chart.StarSystem
/-!
# Location — queries

A place as a caller gives it: a number of a known kind, or a name in free
text; and what it is resolved to, a system.
-/

namespace StarFreight

/-- What a number refers to. -/
inductive LocationKind where
  | system
  | station
  | citadel
deriving DecidableEq, Repr

namespace LocationKind

/-- The name of a kind. -/
def label : LocationKind → String
  | .system => "system"
  | .station => "station"
  | .citadel => "structure"

/-- The kind that a name stands for. -/
def ofLabel? (name : String) : Option LocationKind :=
  [LocationKind.system, .station, .citadel].find? (·.label == name)

end LocationKind

/-- A place as a caller gives it. -/
inductive LocationQuery where
  | name (text : String)
  | number (id : Int) (kind : LocationKind)
deriving DecidableEq, Repr

/-- What a place is resolved to. -/
structure ResolvedLocation where
  systemId : SystemId
  /-- The station or structure, when it was given by number. -/
  locationId : Option Int := none
  matchedName : String
deriving DecidableEq, Repr

end StarFreight
