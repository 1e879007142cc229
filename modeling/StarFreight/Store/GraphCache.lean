import StarFreight.Chart.Snapshot
import StarFreight.Store.Systems
/-!
# Store — the graph cache

The graph is loaded when it is first needed and kept until it is `ttl` seconds
old or invalidated. Loadings are numbered; one that fails is not counted and
changes nothing.
-/

namespace StarFreight

/-- A snapshot in the cache, and when it was put there. -/
structure HeldSnapshot where
  snapshot : Snapshot
  /-- The second at which it was loaded. -/
  loadedAt : Nat

/-- The cache of the graph. -/
structure GraphCache where
  slot : Option HeldSnapshot := none
  /-- How many loadings succeeded so far. -/
  generation : Nat := 0

/-- What a cache of the graph goes by. -/
structure GraphSettings where
  path : String
  /-- How many seconds a snapshot is kept; none for 0. -/
  ttl : Nat := 600
  /-- What makes a graph one to be trusted. -/
  demands : GraphDemands := {}
deriving DecidableEq, Repr

namespace GraphSettings

/-- The database, which has to exist. -/
def connect (settings : GraphSettings) (db : Option Database) : Except StoreError Database :=
  match db with
  | some db => .ok db
  | none => .error (.databaseMissing settings.path)

end GraphSettings

namespace GraphCache

/-- The snapshot in the cache while it is not too old. -/
def fresh? (cache : GraphCache) (settings : GraphSettings) (now : Nat) : Option Snapshot :=
  (cache.slot.filter fun held => now - held.loadedAt < settings.ttl).map (·.snapshot)

/-- Loads the graph and keeps it. -/
def load (cache : GraphCache) (settings : GraphSettings) (now : Nat) (db : Option Database) :
    Except StoreError Snapshot × GraphCache :=
  match settings.connect db >>= Database.graph with
  | .error e => (.error e, cache)
  | .ok g =>
    let generation := cache.generation + 1
    let snapshot := Snapshot.ofGraph g settings.demands generation
    (.ok snapshot, { slot := some { snapshot, loadedAt := now }, generation })

/-- The snapshot to work with: the one kept while it is fresh, or else a new
one. -/
def snapshot (cache : GraphCache) (settings : GraphSettings) (now : Nat) (db : Option Database) :
    Except StoreError Snapshot × GraphCache :=
  match cache.fresh? settings now with
  | some snapshot => (.ok snapshot, cache)
  | none => cache.load settings now db

/-- The assessment of the snapshot to work with. -/
def health (cache : GraphCache) (settings : GraphSettings) (now : Nat) (db : Option Database) :
    Except StoreError Health × GraphCache :=
  let (found, cache) := cache.snapshot settings now db
  (found.map (·.health), cache)

/-- Forgets the snapshot, so that the next use loads it. -/
def invalidate (cache : GraphCache) : GraphCache :=
  { cache with slot := none }

end GraphCache

end StarFreight
