import StarFreight.Proofs.Store.Rows
import StarFreight.Store.GraphCache
/-!
# Store — a current cache is a loading

A cache is current when the snapshot that it holds, if it holds one, is what a
loading would give now, but for the number of the loading (`Current`). What a
current cache gives is what a loading gives (`snapshot_of_current`), however
long it keeps its snapshots, and it stays current: so a cache stays current as
long as the tables of the graph do not change under it (`graph_congr`).
-/

namespace StarFreight

namespace Snapshot

/-- A snapshot without the number of its loading. -/
def unnumbered (snapshot : Snapshot) : Snapshot :=
  { snapshot with generation := 0 }

@[simp] theorem unnumbered_ofGraph (g : Graph) (demands : GraphDemands) (n : Nat) :
    (ofGraph g demands n).unnumbered = ofGraph g demands 0 :=
  rfl

end Snapshot

/-- **The graph depends on the tables of its systems and gates.** -/
theorem Database.graph_congr {db after : Database}
    (hsystems : after.table? .mapSystems = db.table? .mapSystems)
    (hgates : after.table? .mapSystemGates = db.table? .mapSystemGates) :
    after.graph = db.graph := by
  simp only [graph, checkGraphTable, hsystems, hgates, systemsOf_congr hsystems,
    gates_congr hgates]

/-- The snapshot that a loading gives, without its number. -/
def GraphSettings.reading (settings : GraphSettings) (db : Option Database) :
    Except StoreError Snapshot :=
  (settings.connect db >>= Database.graph).map (Snapshot.ofGraph · settings.demands 0)

namespace GraphCache

variable {cache after : GraphCache} {settings : GraphSettings} {now : Nat} {db : Option Database}
  {snapshot : Snapshot}

/-- A cache that holds nothing but what a loading would give. -/
def Current (cache : GraphCache) (settings : GraphSettings) (db : Option Database) : Prop :=
  ∀ held, cache.slot = some held → settings.reading db = .ok held.snapshot.unnumbered

theorem current_of_slot_eq_none (h : cache.slot = none) : cache.Current settings db := by
  intro held hheld
  cases h.symm.trans hheld

/-- A loading gives a reading, and leaves a current cache current. -/
theorem load_of_current (h : cache.Current settings db) :
    (cache.load settings now db).1.map Snapshot.unnumbered = settings.reading db ∧
      (cache.load settings now db).2.Current settings db := by
  unfold load
  cases hgraph : settings.connect db >>= Database.graph with
  | error e => exact ⟨by simp [GraphSettings.reading, hgraph, Except.map], h⟩
  | ok g =>
    have hreading : settings.reading db = .ok (.ofGraph g settings.demands 0) := by
      simp [GraphSettings.reading, hgraph, Except.map]
    refine ⟨hreading.symm, fun held hheld => ?_⟩
    obtain rfl := Option.some.inj hheld
    exact hreading

/-- **What a current cache gives is what a loading gives**, and it stays current. -/
theorem snapshot_of_current (h : cache.Current settings db) :
    (cache.snapshot settings now db).1.map Snapshot.unnumbered = settings.reading db ∧
      (cache.snapshot settings now db).2.Current settings db := by
  unfold GraphCache.snapshot
  split
  · next held hfresh =>
    obtain ⟨found, hfound, rfl⟩ := Option.map_eq_some_iff.mp hfresh
    exact ⟨(h found (Option.filter_eq_some_iff.mp hfound).1).symm, h⟩
  · exact load_of_current h

/-- A cache keeps the snapshot that it gives. -/
theorem slot_of_snapshot (h : cache.snapshot settings now db = (.ok snapshot, after)) :
    after.slot.map (·.snapshot) = some snapshot := by
  unfold GraphCache.snapshot at h
  split at h
  · next held hfresh =>
    obtain ⟨hheld, rfl⟩ := Prod.mk.inj h
    obtain rfl := Except.ok.inj hheld
    obtain ⟨found, hfound, hsnapshot⟩ := Option.map_eq_some_iff.mp hfresh
    rw [(Option.filter_eq_some_iff.mp hfound).1, Option.map_some, hsnapshot]
  · unfold load at h
    split at h
    · cases h
    · obtain ⟨hloaded, rfl⟩ := Prod.mk.inj h
      rw [← Except.ok.inj hloaded]
      rfl

end GraphCache

end StarFreight
