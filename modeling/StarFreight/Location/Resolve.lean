import StarFreight.Chart.Numbered
import StarFreight.Chart.Suggestion
import StarFreight.Planning.Failure
import StarFreight.Store.Systems
/-!
# Location — resolving

How a place becomes a system. A number is looked up. A name goes through
stages: the part before a dash, as the name of a system; the whole, as the
name of a system; the whole, as the name of a station or structure; and then
as a part of the names of the graph's systems and of all systems. The first
stage that finds anything decides: one find is the answer, several are
ambiguous.
-/

namespace StarFreight

/-- A system's number with the name under which it was found. -/
abbrev NamedId := SystemId × String

/-- What a resolver looks at. -/
structure Gazetteer where
  database : Database
  snapshot : Snapshot

namespace Gazetteer

/-- The character between a system and a place in it. -/
def separator : Char := '—'

/-- How many partial finds in one table are looked at. -/
def partialLimit : Nat := 10

/-- How many suggestions are made for an unknown name. -/
def suggestionLimit : Nat := 3

/-- The answer that finds mean: none, the only one, or that there are
several. -/
def decide? (name : String) : List NamedId → Except FailureCause (Option ResolvedLocation)
  | [] => .ok none
  | [(id, matched)] => .ok (some { systemId := id, matchedName := matched })
  | finds => .error (.ambiguousName (Text.trim name) (finds.map (·.2)))

/-- The numbers and names in a table, in the given order, whose normalized name
satisfies a test. -/
def scan (g : Gazetteer) (source : TableName) (order : String) (test : String → Bool) :
    Except StoreError (List NamedId) := do
  let records ← g.database.select
    { source, columns := ["system_id", "name"], order := [order] }
  let named ← records.mapM fun record => do
    return (← record.integer 0, ← record.text 1)
  return named.filter fun (_, name) => test (Text.normalizeName name)

/-- The stage that looks for a system by its whole name. -/
def exactSystem (g : Gazetteer) (normalized : String) :
    Except FailureCause (Option ResolvedLocation) :=
  match g.snapshot.idByName? normalized >>= fun id => (g.snapshot.name? id).map (id, ·) with
  | some (id, name) => .ok (some { systemId := id, matchedName := name })
  | none => do
    let mapped ← (g.scan .mapSystems "system_id" (· == normalized)).mapError .store
    let referenced ← (g.scan .referenceSystems "system_id" (· == normalized)).mapError .store
    decide? normalized (firstOfEach (·.1) (mapped ++ referenced))

/-- The stage that looks for a station or structure by its whole name. -/
def exactLocation (g : Gazetteer) (normalized : String) :
    Except FailureCause (Option ResolvedLocation) := do
  let finds ← (g.scan .referenceLocations "location_id" (· == normalized)).mapError .store
  decide? normalized (finds.take partialLimit)

/-- The stage that looks for a system by a part of its name. -/
def partialSystem (g : Gazetteer) (source : TableName) (text normalized : String) :
    Except FailureCause (Option ResolvedLocation) := do
  let finds ← (g.scan source "name" (Text.contains · normalized)).mapError .store
  decide? text (finds.take partialLimit)

/-- The stage that looks for a system by what stands before a dash. -/
def composite (g : Gazetteer) (normalized : String) :
    Except FailureCause (Option ResolvedLocation) :=
  match (Text.before? separator normalized).map Text.trim with
  | none => .ok none
  | some front => if front.isEmpty then .ok none else g.exactSystem front

/-- The answer of the first stage that finds anything. -/
def firstStage {α : Type} : List (Unit → Except FailureCause (Option α)) →
    Except FailureCause (Option α)
  | [] => .ok none
  | stage :: stages =>
    match stage () with
    | .error cause => .error cause
    | .ok (some found) => .ok (some found)
    | .ok none => firstStage stages

/-- The stages of a name, in order. -/
def stages (g : Gazetteer) (text normalized : String) :
    List (Unit → Except FailureCause (Option ResolvedLocation)) :=
  [ fun _ => g.composite normalized
  , fun _ => g.exactSystem normalized
  , fun _ => g.exactLocation normalized
  , fun _ => g.partialSystem .mapSystems text normalized
  , fun _ => g.partialSystem .referenceSystems text normalized ]

/-- The system that a name stands for. -/
def resolveName (g : Gazetteer) (text : String) : Except FailureCause ResolvedLocation :=
  let normalized := Text.normalizeName text
  if normalized.isEmpty then .error .emptyName
  else
    match firstStage (g.stages text normalized) with
    | .error cause => .error cause
    | .ok (some found) => .ok found
    | .ok none =>
      .error (.unknownName (Text.trim text) (g.snapshot.suggestions text suggestionLimit))

/-- The station or structure with a number. -/
def stationOf? (g : Gazetteer) (id : Int) (kind : LocationKind) :
    Except StoreError (Option NamedId) := do
  let records ← g.database.select
    { source := .referenceLocations, columns := ["system_id", "name"]
      conditions := [.isInteger "location_id" id, .isText "location_type" kind.label] }
  match records with
  | [] => return none
  | record :: _ => return some (← record.integer 0, ← record.text 1)

/-- The system that a number stands for. -/
def resolveNumber (g : Gazetteer) (id : Int) : LocationKind → Except FailureCause ResolvedLocation
  | .system => do
    match ← (g.database.knownSystem? g.snapshot id).mapError .store with
    | some s => return { systemId := id, matchedName := s.name }
    | none => throw (.unknownId id .system)
  | kind => do
    match ← (g.stationOf? id kind).mapError .store with
    | some (systemId, name) => return { systemId, locationId := some id, matchedName := name }
    | none => throw (.unknownId id kind)

/-- The system that a place stands for. -/
def resolve (g : Gazetteer) : LocationQuery → Except FailureCause ResolvedLocation
  | .name text => g.resolveName text
  | .number id kind => g.resolveNumber id kind

end Gazetteer

end StarFreight
