import Mathlib.Tactic.FinCases
import StarFreight.Proofs.Planning.Ending
/-!
# Planning — upkeep of the graph

A graph is kept up by one backfill after another, of which each is done whole or not
at all (`afterCall`). All that were done make one patch of the database at the
beginning (`Reached.run`). Since that is told by which paths were written, their order
does not matter, and neither do repetitions (`sameRows_afterCalls`); and a path that
was written leaves nothing to write (`answer_of_reached`).

One thing can come between: a record that finds no number left, for which a path is
turned away that an earlier call might have written. So the order does not matter as
long as this happens in one of the orders to no call (`Lasts`), and then it keeps no
path out in any other. With one number left for two paths, it does matter.
-/

namespace StarFreight

/-- A call for a backfill. -/
structure BackfillCall where
  provenance : Provenance
  path : List SystemId

/-- The steps of a path. -/
def pathSteps (path : List SystemId) : List (SystemId × SystemId) :=
  path.zip path.tail

namespace Database

/-- How a call ends. -/
def answer (db : Database) (call : BackfillCall) :
    Except StoreError (Database × BackfillReport) :=
  db.backfillPath call.provenance call.path

/-- A database after a call; one that fails leaves it as it was. -/
def afterCall (db : Database) (call : BackfillCall) : Database :=
  match db.answer call with
  | .ok (after, _) => after
  | .error _ => db

/-- A database after one call after another. -/
def afterCalls (db : Database) (calls : List BackfillCall) : Database :=
  calls.foldl afterCall db

/-- Whether no call fails for want of a number for its records. -/
def Lasts : Database → List BackfillCall → Prop
  | _, [] => True
  | db, call :: calls => db.answer call ≠ .error exhausted ∧ (db.afterCall call).Lasts calls

variable {base db after : Database} {call : BackfillCall} {calls calls' : List BackfillCall}
  {report : BackfillReport} {p q : Patch} {path : List SystemId}
  {done written : List (List SystemId)} {P Q : List SystemId → Prop}

theorem afterCall_of_eq_ok (h : db.answer call = .ok (after, report)) :
    db.afterCall call = after := by
  rw [afterCall, h]

theorem afterCall_of_eq_error {e : StoreError} (h : db.answer call = .error e) :
    db.afterCall call = db := by
  rw [afterCall, h]

/-! ## Paths that were written -/

/-- A database was reached by writing paths. -/
structure Reached (base : Database) (written : List (List SystemId)) (patch : Patch)
    (db : Database) : Prop where
  lacks : base.Lacks written.flatten (written.flatMap pathSteps) patch
  patched : base.Patched patch db
  readable : ∀ path ∈ written, ∀ id ∈ path, base.Readable id

theorem Reached.refl (h : base.Standard) : base.Reached [] {} base where
  lacks := lacks_nothing nofun nofun
  patched := .refl h
  readable := nofun

/-- There are fewer numbers left than records are lacking of some paths. -/
def Short (base : Database) (P : List SystemId → Prop) : Prop :=
  ∃ paths : List (List SystemId), (∀ path ∈ paths, P path) ∧ ∃ ids steps patch,
    ids ⊆ paths.flatten ∧ steps ⊆ paths.flatMap pathSteps ∧ base.Lacks ids steps patch ∧
      ¬ base.HasRoom patch.records.length

theorem Short.mono (h : base.Short P) (himp : ∀ path, P path → Q path) : base.Short Q := by
  obtain ⟨paths, hpaths, hrest⟩ := h
  exact ⟨paths, fun path hpath => himp path (hpaths path hpath), hrest⟩

/-- Numbers are left for paths that were written. -/
theorem Reached.not_short (h : base.Reached written p db) : ¬ base.Short (· ∈ written) := by
  rintro ⟨paths, hpaths, ids, steps, q, hids, hsteps, hlacks, hfull⟩
  have hall : paths.flatten ⊆ written.flatten := fun id hid => by
    obtain ⟨path, hpath, hmem⟩ := List.mem_flatten.mp hid
    exact List.mem_flatten.mpr ⟨path, hpaths path hpath, hmem⟩
  have hall' : paths.flatMap pathSteps ⊆ written.flatMap pathSteps := fun step hstep => by
    obtain ⟨path, hpath, hmem⟩ := List.mem_flatMap.mp hstep
    exact List.mem_flatMap.mpr ⟨path, hpaths path hpath, hmem⟩
  exact hfull (h.patched.room.mono (hlacks.length_records_le h.lacks
    (List.Subset.trans hids hall) (List.Subset.trans hsteps hall')))

/-- What one more call leads to: its path is written, or cannot be read, or there are not
enough numbers left. -/
theorem Reached.call_cases (h : base.Reached written p db) (hbase : base.Standard)
    (call : BackfillCall) :
    (∃ q after report, db.answer call = .ok (after, report) ∧
      base.Reached (written ++ [call.path]) q after) ∨
    ∃ e, db.answer call = .error e ∧ ((∃ id ∈ call.path, ¬ base.Readable id) ∨
      e = exhausted ∧ base.Short (· ∈ written ++ [call.path])) := by
  have hends := ends_backfillPath h.patched.standard call.provenance call.path
  change db.Ends {} call.path (pathSteps call.path) (db.answer call) at hends
  generalize db.answer call = out at hends
  cases hends with
  | @patched q after report hlacks hpatched _ hreadable =>
    refine .inl ⟨p.append q, after, report, rfl, ?_, h.patched.trans hpatched, ?_⟩
    · simpa using h.lacks.append h.patched hbase hlacks
    · intro path hpath id hid
      rcases List.mem_append.mp hpath with hpath | hpath
      · exact h.readable path hpath id hid
      · obtain rfl := List.mem_singleton.mp hpath
        exact (h.lacks.readable_iff h.patched hbase).mp (hreadable id hid)
  | @exhausted ids steps q hids hsteps hlacks hfull =>
    refine .inr ⟨_, rfl, .inr ⟨rfl, written ++ [call.path], fun _ hpath => hpath, _, _,
      p.append q, ?_, ?_, h.lacks.append h.patched hbase hlacks,
      h.patched.hasRoom_append.not.mpr hfull⟩⟩
    · simpa using List.subset_append_of_subset_right _ hids
    · simpa using List.subset_append_of_subset_right _ hsteps
  | unreadable hid hread =>
    exact .inr ⟨_, rfl, .inl ⟨_, hid, (h.lacks.readable_iff h.patched hbase).not.mp hread⟩⟩

/-- Whether a path is asked for by a call and all its systems can be read. -/
def Asked (base : Database) (calls : List BackfillCall) (path : List SystemId) : Prop :=
  path ∈ calls.map (·.path) ∧ ∀ id ∈ path, base.Readable id

theorem Asked.cons (h : base.Asked calls path) : base.Asked (call :: calls) path :=
  ⟨List.mem_cons_of_mem _ h.1, h.2⟩

/-- **What a run of calls leads to**: all paths that were asked for are written, unless there
were not enough numbers left. -/
theorem Reached.run (h : base.Reached done p db) (hbase : base.Standard)
    (calls : List BackfillCall) : ∃ written q,
      base.Reached (done ++ written) q (db.afterCalls calls) ∧
      (∀ path ∈ written, base.Asked calls path) ∧
      ∀ path, base.Asked calls path → path ∈ written ∨
        ¬ db.Lasts calls ∧ base.Short fun path => path ∈ done ∨ base.Asked calls path := by
  -- what was written so far is carried along; a call that fails leaves it as it is
  induction calls generalizing db done p with
  | nil => exact ⟨[], p, by rwa [List.append_nil], nofun, fun _ hasked => nomatch hasked.1⟩
  | cons call calls ih =>
    have hrest : ∀ path, base.Asked (call :: calls) path → path = call.path ∨
        base.Asked calls path := by
      rintro path ⟨hpath, hreadable⟩
      exact (List.mem_cons.mp hpath).imp_right fun hpath => ⟨hpath, hreadable⟩
    have hnow : base.Asked (call :: calls) call.path → ∀ path ∈ done ++ [call.path],
        path ∈ done ∨ base.Asked (call :: calls) path := by
      intro hasked path hpath
      refine (List.mem_append.mp hpath).imp_right fun hpath => ?_
      rwa [List.mem_singleton.mp hpath]
    rcases h.call_cases hbase call with ⟨_, after, report, hcall, hreached⟩ | ⟨e, hcall, hcause⟩
    · obtain ⟨written, q, hrun, hwritten, hmissed⟩ := ih hreached
      have hfirst : base.Asked (call :: calls) call.path :=
        ⟨List.mem_cons_self, hreached.readable _ (List.mem_append_right _ List.mem_cons_self)⟩
      refine ⟨call.path :: written, q, ?_, ?_, fun path hpath => ?_⟩
      · rw [List.append_cons, afterCalls, List.foldl_cons, afterCall_of_eq_ok hcall]
        exact hrun
      · exact List.forall_mem_cons.mpr ⟨hfirst, fun path hpath => (hwritten path hpath).cons⟩
      · rcases hrest path hpath with rfl | hpath
        · exact .inl List.mem_cons_self
        · refine (hmissed path hpath).imp (List.mem_cons_of_mem _) ?_
          rintro ⟨hlasts, hshort⟩
          refine ⟨fun hall => hlasts ?_, hshort.mono fun other hother =>
            hother.elim (hnow hfirst other) fun hother => .inr hother.cons⟩
          rw [← afterCall_of_eq_ok hcall]
          exact hall.2
    · obtain ⟨written, q, hrun, hwritten, hmissed⟩ := ih h
      have hafter := afterCall_of_eq_error hcall
      refine ⟨written, q, ?_, fun path hpath => (hwritten path hpath).cons, fun path hpath => ?_⟩
      · rw [afterCalls, List.foldl_cons, hafter]
        exact hrun
      · rcases hrest path hpath with rfl | hpath'
        · right
          rcases hcause with ⟨id, hid, hread⟩ | ⟨rfl, hshort⟩
          · exact absurd (hpath.2 id hid) hread
          · exact ⟨fun hall => hall.1 hcall, hshort.mono (hnow hpath)⟩
        · refine (hmissed path hpath').imp_right ?_
          rintro ⟨hlasts, hshort⟩
          refine ⟨fun hall => hlasts ?_, hshort.mono fun other hother => hother.imp_right .cons⟩
          rw [← hafter]
          exact hall.2

/-- All paths that a run asked for were written if it lasted. -/
theorem exists_reached (hbase : base.Standard) (calls : List BackfillCall) :
    ∃ written q, base.Reached written q (base.afterCalls calls) ∧
      (∀ path ∈ written, base.Asked calls path) ∧
      ∀ path, base.Asked calls path → path ∈ written ∨
        ¬ base.Lasts calls ∧ base.Short (base.Asked calls) := by
  obtain ⟨written, q, hreached, hwritten, hmissed⟩ := (Reached.refl hbase).run hbase calls
  refine ⟨written, q, hreached, hwritten, fun path hpath => (hmissed path hpath).imp_right ?_⟩
  exact fun h => ⟨h.1, h.2.mono fun other hother => hother.resolve_left nofun⟩

/-! ## Orders and repetitions -/

/-- Whether two databases have the same rows in a table, in any order. -/
def SameRows (db other : Database) (name : TableName) : Prop :=
  ∃ t t', db.table? name = some t ∧ other.table? name = some t' ∧ t.rows.Perm t'.rows

/-- The same rows on top of the same make the same rows. -/
theorem Gains.sameRows {name : TableName} {rows rows' : List Row} {other : Database}
    (h : base.Gains name rows db) (h' : base.Gains name rows' other) (hrows : rows.Perm rows') :
    db.SameRows other name := by
  obtain ⟨t, t₁, ht, ht₁, hperm⟩ := h
  obtain ⟨_, t₂, hbase, ht₂, hperm'⟩ := h'
  obtain rfl := Option.some.inj (ht.symm.trans hbase)
  exact ⟨t₁, t₂, ht₁, ht₂, hperm.trans ((hrows.append_right t.rows).trans hperm'.symm)⟩

/-- **Neither order nor repetitions matter** to a graph that is kept up, if one of the runs
lasts. -/
theorem sameRows_afterCalls (hbase : base.Standard) (hlasts : base.Lasts calls)
    (hsame : ∀ path, path ∈ calls.map (·.path) ↔ path ∈ calls'.map (·.path)) :
    (base.afterCalls calls).SameRows (base.afterCalls calls') .mapSystems ∧
      (base.afterCalls calls).SameRows (base.afterCalls calls') .mapSystemGates := by
  obtain ⟨written, p, hreached, hwritten, hmissed⟩ := exists_reached hbase calls
  obtain ⟨written', p', hreached', hwritten', hmissed'⟩ := exists_reached hbase calls'
  have hasked : ∀ path, path ∈ written ↔ base.Asked calls path := fun path =>
    ⟨hwritten path, fun hpath => (hmissed path hpath).resolve_right fun h => h.1 hlasts⟩
  have hasked' : ∀ path, base.Asked calls' path ↔ base.Asked calls path := fun path =>
    and_congr_left fun _ => (hsame path).symm
  -- what one order has numbers for, all orders have
  have hpaths : ∀ path, path ∈ written ↔ path ∈ written' := by
    refine fun path => ⟨fun hpath => ?_, fun hpath => ?_⟩
    · refine (hmissed' path ((hasked' path).mpr ((hasked path).mp hpath))).resolve_right ?_
      exact fun h => hreached.not_short (h.2.mono fun other hother =>
        (hasked other).mpr ((hasked' other).mp hother))
    · exact (hasked path).mpr ((hasked' path).mp (hwritten' path hpath))
  have hsystems := hreached.lacks.systems_perm hreached'.lacks fun id => by
    simp only [List.mem_flatten, hpaths]
  have hgates := hreached.lacks.gates_perm hreached'.lacks fun step => by
    simp only [List.mem_flatMap, hpaths]
  exact ⟨hreached.patched.systems.sameRows hreached'.patched.systems (hsystems.map systemRow),
    hreached.patched.gates.sameRows hreached'.patched.gates (hgates.map gateRow)⟩

/-! ## Paths that are there -/

/-- **A path that was written leaves nothing to write.** -/
theorem answer_of_reached (hbase : base.Standard) (h : base.Reached written p db)
    (call : BackfillCall) (hpath : call.path ∈ written) :
    ∃ report, db.answer call = .ok (db, report) ∧ report.isEmpty = true := by
  -- with nothing lacking, the call can neither add nor run out of numbers
  have hnothing := h.lacks.lacks_nothing h.patched hbase
  have hids : call.path ⊆ written.flatten := fun id hid => List.mem_flatten.mpr ⟨_, hpath, hid⟩
  have hsteps : pathSteps call.path ⊆ written.flatMap pathSteps :=
    fun step hstep => List.mem_flatMap.mpr ⟨_, hpath, hstep⟩
  have hends := ends_backfillPath h.patched.standard call.provenance call.path
  cases hcall : db.backfillPath call.provenance call.path with
  | ok out =>
    obtain ⟨after, report⟩ := out
    rw [hcall] at hends
    cases hends with
    | @patched q _ _ hlacks _ htells _ =>
      have hlength := hlacks.length_records_le hnothing hids hsteps
      rw [q.length_records] at hlength
      have hempty : report.isEmpty = true := by
        obtain ⟨hsystems, hlinks⟩ := Nat.add_eq_zero_iff.mp (Nat.le_zero.mp hlength)
        rw [BackfillReport.isEmpty, htells.nodes, htells.edges, hsystems, hlinks]
        rfl
      obtain rfl := backfillPath_of_isEmpty hcall hempty
      exact ⟨report, hcall, hempty⟩
  | error e =>
    rw [hcall] at hends
    cases hends with
    | exhausted hids' hsteps' hlacks hfull =>
      have hle := hlacks.length_records_le hnothing (List.Subset.trans hids' hids)
        (List.Subset.trans hsteps' hsteps)
      exact absurd ((hasRoom_zero db).mono hle) hfull
    | unreadable hid hread =>
      refine absurd ?_ hread
      exact (h.lacks.readable_iff h.patched hbase).mpr (h.readable _ hpath _ hid)

/-! ## The guarantee -/

/-- What keeping up the graph does for a database. -/
structure Upkeep (base : Database) : Prop where
  /-- Rows are only added: those that the graph lacked of the paths that were written, which
  are all that can be read if the run lasts. Each system that is added is recorded once, and
  so is each connection that gains a gate. -/
  grows : ∀ calls, ∃ (written : List (List SystemId)) (patch : Patch),
    (∀ path ∈ written, base.Asked calls path) ∧
    (base.Lasts calls → ∀ path, base.Asked calls path → path ∈ written) ∧
    base.Lacks written.flatten (written.flatMap pathSteps) patch ∧
    base.Patched patch (base.afterCalls calls) ∧ patch.records.Nodup
  /-- Order and repetitions do not matter, if one of the runs lasts. -/
  settles : ∀ calls calls', base.Lasts calls →
    (∀ path, path ∈ calls.map (·.path) ↔ path ∈ calls'.map (·.path)) →
    (base.afterCalls calls).SameRows (base.afterCalls calls') .mapSystems ∧
      (base.afterCalls calls).SameRows (base.afterCalls calls') .mapSystemGates
  /-- To write a path once more, however much later, writes nothing. -/
  rests : ∀ calls call after report, (base.afterCalls calls).answer call = .ok (after, report) →
    ∀ later provenance, ∃ report',
      (after.afterCalls later).answer ⟨provenance, call.path⟩ =
        .ok (after.afterCalls later, report') ∧ report'.isEmpty = true

/-- **How the graph is kept up**, in every database with the planner's own tables. -/
theorem keptUp (hbase : base.Standard) : base.Upkeep where
  grows calls := by
    obtain ⟨written, q, hreached, hwritten, hmissed⟩ := exists_reached hbase calls
    refine ⟨written, q, hwritten, fun hlasts path hpath => ?_, hreached.lacks, hreached.patched,
      hreached.lacks.nodup_records⟩
    exact (hmissed path hpath).resolve_right fun h => h.1 hlasts
  settles _ _ := sameRows_afterCalls hbase
  rests calls call after report hcall later provenance := by
    obtain ⟨written, p, hreached, -⟩ := exists_reached hbase calls
    rcases hreached.call_cases hbase call with ⟨q, after', report', hcall', hnext⟩ | ⟨e, hcall', -⟩
    · obtain ⟨rfl, rfl⟩ := Prod.mk.inj (Except.ok.inj (hcall.symm.trans hcall'))
      obtain ⟨written', r, hlast, -⟩ := hnext.run hbase later
      refine answer_of_reached hbase hlast ⟨provenance, call.path⟩ ?_
      simp
    · cases hcall.symm.trans hcall'

end Database

/-- Tables of two systems of which the graph has none, and a gate in one direction. -/
def shoreTables : Database where
  mapSystems := some systemsTable
  mapSystemGates := some
    { TableName.mapSystemGates.emptyTable with rows := [[.integer 2, .integer 1]] }
  referenceSystems := some
    { systemsTable with
      rows :=
        [ [.integer 1, .text "Ebb", .real 0, .integer 10, .integer 7]
        , [.integer 2, .text "Flow", .real 0, .integer 10, .integer 7] ] }
  backfillAudit := some TableName.backfillAudit.emptyTable

theorem standard_shoreTables : shoreTables.Standard := by
  intro name hname
  fin_cases hname
  · exact ⟨_, rfl, rfl, rfl, rfl, nofun⟩
  · exact ⟨_, rfl, rfl, rfl, rfl, fun hnumbered => absurd rfl hnumbered⟩
  · refine ⟨_, rfl, rfl, rfl, rfl, fun _ row hrow => ?_⟩
    fin_cases hrow <;> exact ⟨_, _, rfl⟩
  · exact ⟨_, rfl, rfl, rfl, rfl, nofun⟩

/-- A call for a backfill of a path. -/
def tideCall (path : List SystemId) : BackfillCall where
  provenance := { source := oracleSource, stamp := "t" }
  path := path

/-- A path and its way back may be written in either order, and one of them twice. -/
theorem Database.keptUp_shore : shoreTables.Upkeep ∧
    (shoreTables.afterCalls [tideCall [1, 2, 9], tideCall [2, 1]]).SameRows
      (shoreTables.afterCalls [tideCall [2, 1], tideCall [1, 2, 9], tideCall [2, 1]])
      .mapSystemGates := by
  have hupkeep := Database.keptUp standard_shoreTables
  have hlasts : shoreTables.Lasts [tideCall [1, 2, 9], tideCall [2, 1]] :=
    ⟨by decide +kernel, by decide +kernel, trivial⟩
  refine ⟨hupkeep, (hupkeep.settles _ _ hlasts fun path => ?_).2⟩
  simp [tideCall, or_comm]

/-- The same tables with one number left for records. -/
def slackTables : Database :=
  shoreTables.withTable .backfillAudit <| some
    { TableName.backfillAudit.emptyTable with
      lastNumber := 9223372036854775806
      rows :=
        [ [ .integer 9223372036854775806, .text "system", .text "0", .text "oracle", .null
          , .text "t" ] ] }

/-- **Order matters where a run does not last**: with one number left, the first of two
systems is added, whichever it is. -/
theorem Database.not_sameRows_slack : slackTables.Standard ∧
    [tideCall [1], tideCall [2]].Perm [tideCall [2], tideCall [1]] ∧
    ¬ (slackTables.afterCalls [tideCall [1], tideCall [2]]).SameRows
      (slackTables.afterCalls [tideCall [2], tideCall [1]]) .mapSystems := by
  refine ⟨standard_shoreTables.withTable ⟨rfl, rfl, rfl, fun _ row hrow => ?_⟩, .swap _ _ _, ?_⟩
  · fin_cases hrow
    exact ⟨_, _, rfl⟩
  · rintro ⟨t, t', ht, ht', hrows⟩
    have hfirst : (slackTables.afterCalls [tideCall [1], tideCall [2]]).mapSystems.map
        (fun t => t.rows.map List.head?) = some [some (.integer 1)] := by
      decide +kernel
    have hsecond : (slackTables.afterCalls [tideCall [2], tideCall [1]]).mapSystems.map
        (fun t => t.rows.map List.head?) = some [some (.integer 2)] := by
      decide +kernel
    have hheads := hrows.map List.head?
    rw [show (slackTables.afterCalls _).mapSystems = some t from ht] at hfirst
    rw [show (slackTables.afterCalls _).mapSystems = some t' from ht'] at hsecond
    have hkeys : t.rows.map List.head? = [some (.integer 1)] := Option.some.inj hfirst
    have hkeys' : t'.rows.map List.head? = [some (.integer 2)] := Option.some.inj hsecond
    rw [hkeys, hkeys'] at hheads
    exact absurd hheads (by decide)

end StarFreight
