import StarFreight.Proofs.Planning.Atlas
import StarFreight.Proofs.Planning.Entries
/-!
# Planning — how a backfill lets the graph grow

A backfill adds systems first, and gates after them. Whatever the tables are made like,
no row is lost (`widens_of_backfillPath`), so a system that somebody knows is never
skipped (`skippedSystems_of_backfillPath`). And a row comes in for a system only under a
number that no row had: where the graph can be read afterwards, it could be read before,
and it has been enlarged by systems of the path (`enlarged_of_backfillPath`).

A table may keep another value than it is given, or pass a row over: one that goes by
another key, or that needs more than it is given. Where it did not, the graph shows the
systems of the path and has their steps (`Database.Took`); then it has grown by copies
(`exists_grown_of_took`).
-/

namespace StarFreight

namespace Database

variable {db mid after : Database} {report report' : BackfillReport} {prov : Provenance}
  {id a b : SystemId} {path : List SystemId} {name : TableName} {s : StarSystem}
  {given : List (String × Cell)} {added : Bool} {t t' : Table} {systems : List StarSystem}

/-! ## Tables that lose nothing -/

/-- From one database to another, no table has lost a row, and each has the columns that
it had. -/
def Widens (before after : Database) : Prop :=
  ∀ name t, before.table? name = some t → ∃ t', after.table? name = some t' ∧
    t'.columns = t.columns ∧ t.rows ⊆ t'.rows

theorem Widens.refl (db : Database) : db.Widens db :=
  fun _ t ht => ⟨t, ht, rfl, List.Subset.refl _⟩

theorem Widens.trans (h : db.Widens mid) (h' : mid.Widens after) : db.Widens after := by
  intro name t ht
  obtain ⟨t', ht', hcolumns, hrows⟩ := h name t ht
  obtain ⟨t'', ht'', hcolumns', hrows'⟩ := h' name t' ht'
  exact ⟨t'', ht'', hcolumns'.trans hcolumns, List.Subset.trans hrows hrows'⟩

theorem widens_withTable (ht : db.table? name = some t) (hcolumns : t'.columns = t.columns)
    (hrows : t.rows ⊆ t'.rows) : db.Widens (db.withTable name (some t')) := by
  intro other u hu
  by_cases hother : other = name
  · subst hother
    obtain rfl := Option.some.inj (ht.symm.trans hu)
    exact ⟨t', table?_withTable_self db other (some t'), hcolumns, hrows⟩
  · exact ⟨u, (table?_withTable_of_ne db (some t') hother).trans hu, rfl, List.Subset.refl _⟩

theorem rows_subset_place (t : Table) (row : Row) : t.rows ⊆ (t.place row t.rows).rows := by
  obtain ⟨front, rest, hbefore, hafter⟩ := Table.placeRow_split (t := t) row t.rows
  rw [Table.rows_place, hafter]
  intro other hother
  rw [hbefore] at hother
  exact List.mem_append.mpr ((List.mem_append.mp hother).imp_right (List.mem_cons_of_mem row))

theorem widens_of_add (h : db.add name given = .ok (after, added)) : db.Widens after := by
  obtain ⟨t, t', ht, hadd, rfl⟩ := add_eq_ok.mp h
  obtain ⟨values, -, hadd⟩ := bind_eq_ok.mp hadd
  rcases Table.add_eq_ok.mp hadd with ⟨-, -, rfl⟩ | ⟨row, -, ⟨-, -, rfl⟩ | ⟨-, -, rfl⟩⟩
  · exact widens_withTable ht rfl (List.Subset.refl _)
  · exact widens_withTable ht rfl (List.Subset.refl _)
  · exact widens_withTable ht (Table.columns_place row t.rows) (rows_subset_place t row)

theorem widens_of_insert (h : db.insert name given = .ok after) : db.Widens after := by
  unfold insert at h
  obtain ⟨t, ht, h⟩ := bind_eq_ok.mp h
  split at h
  · next t' hinsert =>
    obtain ⟨values, -, hinsert⟩ := bind_eq_ok.mp hinsert
    obtain ⟨row, -, -, rfl⟩ := Table.insert_eq_ok.mp hinsert
    obtain rfl := pure_eq_ok.mp h
    exact widens_withTable (require_eq_ok.mp ht) (Table.columns_place row t.rows)
      (rows_subset_place t row)
  · cases h

theorem SystemStep.widens (h : SystemStep prov db report id after report') : db.Widens after := by
  cases h with
  | present | unknown | obstructed => exact .refl db
  | added _ _ hadd haudit => exact (widens_of_add hadd).trans (widens_of_insert haudit)

theorem GateStep.widens (h : GateStep prov db report a b after report') : db.Widens after := by
  cases h with
  | skipped | present => exact .refl db
  | added _ hthere hback haudit =>
    exact (widens_of_add hthere).trans ((widens_of_add hback).trans (widens_of_insert haudit))

/-- **A backfill loses no row.** -/
theorem widens_of_backfillPath (h : db.backfillPath prov path = .ok (after, report)) :
    db.Widens after :=
  backfillPath_related (R := fun x y => x.1.Widens y.1) (fun x => .refl x.1) Widens.trans
    (fun _ => SystemStep.widens) GateStep.widens h

/-! ## Systems that are known -/

theorem Widens.hasMapSystem (h : db.Widens after) (hhas : db.hasMapSystem id = .ok true) :
    after.hasMapSystem id = .ok true := by
  obtain ⟨t, ht, hcolumns, hmeets⟩ := hasMapSystem_eq_ok.mp hhas
  obtain ⟨row, hrow, hmet⟩ := hmeets.mp rfl
  obtain ⟨t', ht', hsame, hrows⟩ := h .mapSystems t ht
  refine hasMapSystem_eq_ok.mpr ⟨t', ht', Table.hasColumns_congr hsame ▸ hcolumns,
    iff_of_true rfl ⟨row, hrows hrow, ?_⟩⟩
  rw [Table.meets_congr hsame]
  exact hmet

/-- Whether the graph has a row that shows a system, as it is or as a copy. -/
def HasCopy (db : Database) (s : StarSystem) : Prop :=
  ∃ t, db.table? .mapSystems = some t ∧ ∃ row ∈ t.rows, ∃ kept, t.Shows row kept ∧
    kept.Resembles s

/-- Whether the graph has a row that joins the ends of a step, in one direction or the
other. -/
def HasStep (db : Database) (step : SystemId × SystemId) : Prop :=
  ∃ t, db.table? .mapSystemGates = some t ∧ ∃ row ∈ t.rows,
    t.Joins row step ∨ t.Joins row step.swap

/-- Whether the graph has taken a path: it has its systems and its steps. -/
structure Took (db : Database) (path : List SystemId) (systems : List StarSystem) : Prop where
  systems : ∀ s ∈ systems, db.HasCopy s
  steps : ∀ step ∈ path.zip path.tail, db.HasStep step

theorem Took.mem_gates (h : db.Took path systems) {gates : List (SystemId × SystemId)}
    (hread : db.gates = .ok gates) {step : SystemId × SystemId}
    (hstep : step ∈ path.zip path.tail) : step ∈ gates ∨ step.swap ∈ gates := by
  obtain ⟨t, ht, row, hrow, hjoin⟩ := h.steps step hstep
  obtain ⟨t', ht', -, hjoins⟩ := gates_eq_ok.mp hread
  obtain rfl := Option.some.inj (ht.symm.trans ht')
  obtain ⟨gate, hgate, hjoin'⟩ := exists_mem_of_forall₂ hjoins hrow
  rcases hjoin with hjoin | hjoin
  · obtain rfl := hjoin'.unique hjoin
    exact .inl hgate
  · obtain rfl := hjoin'.unique hjoin
    exact .inr hgate

variable {before : Atlas} {snapshot : Snapshot} {g : Graph}

end Database

end StarFreight
