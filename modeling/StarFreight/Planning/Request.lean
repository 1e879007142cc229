import StarFreight.Location.Query
import StarFreight.Search.Profile
/-!
# Planning — requests

What a caller asks for: two places, a profile, and the places between which it
is willing to act.
-/

namespace StarFreight

/-- The places where a caller may act; one that names nothing allows all. -/
structure AccessScope where
  systems : List SystemId := []
  regions : List RegionId := []
  /-- The stations and structures; they fit only an end that was given as
  one. -/
  locations : List Int := []
deriving DecidableEq, Repr

namespace AccessScope

/-- Whether a scope names nothing. -/
def isOpen (scope : AccessScope) : Bool :=
  scope.systems.isEmpty && scope.regions.isEmpty && scope.locations.isEmpty

/-- Whether a scope allows an end. -/
def permits (scope : AccessScope) (s : StarSystem) (location : Option Int) : Bool :=
  scope.isOpen || scope.systems.contains s.id || scope.regions.contains s.region
    || location.any scope.locations.contains

end AccessScope

/-- A route that is asked for. -/
structure RouteRequest where
  origin : LocationQuery
  destination : LocationQuery
  profile : Profile := .balanced
  pickup : AccessScope := {}
  delivery : AccessScope := {}
deriving DecidableEq, Repr

end StarFreight
