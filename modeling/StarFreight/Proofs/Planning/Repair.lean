import StarFreight.Planning.Backfill
import StarFreight.Proofs.Store.Writes
/-!
# Planning — what a backfill writes

A backfill goes through the systems of a path and then through its steps. What
one system or one step can lead to is told once (`SystemStep`, `GateStep`), and
what a whole backfill does follows by going through the list. It counts all it
writes: a backfill whose report is empty has left the database as it was
(`backfillPath_of_isEmpty`). And it writes into the tables of the graph and the
audit table only (`table?_of_backfillPath`).
-/

namespace StarFreight

/-- What relates a state to the next is kept by a fold that succeeds, if it is kept
by doing nothing and from one step to the next. -/
theorem foldlM_related {ε σ α : Type} {f : σ → α → Except ε σ} {R : σ → σ → Prop}
    (hrefl : ∀ s, R s s) (htrans : ∀ {s t u}, R s t → R t u → R s u)
    {as : List α} (hstep : ∀ {s a t}, a ∈ as → f s a = .ok t → R s t) {s t : σ}
    (h : as.foldlM f s = .ok t) : R s t := by
  induction as generalizing s with
  | nil =>
    obtain rfl := pure_eq_ok.mp h
    exact hrefl s
  | cons a as ih =>
    rw [List.foldlM_cons] at h
    obtain ⟨mid, hmid, h⟩ := bind_eq_ok.mp h
    exact htrans (hstep List.mem_cons_self hmid)
      (ih (fun ha => hstep (List.mem_cons_of_mem a ha)) h)

/-- How much a report counts. -/
def BackfillReport.written (report : BackfillReport) : Nat :=
  report.nodesInserted + report.edgesInserted

namespace Database

/-! ## One system, one step -/

/-- What one system of a path can lead to. -/
inductive SystemStep (prov : Provenance) (db : Database) (report : BackfillReport)
    (id : SystemId) : Database → BackfillReport → Prop
  /-- The graph has it. -/
  | present (hhas : db.hasMapSystem id = .ok true) : SystemStep prov db report id db report
  /-- Nobody knows it. -/
  | unknown (hhas : db.hasMapSystem id = .ok false)
      (hnone : db.referenceSystem? id = .ok none) :
      SystemStep prov db report id db
        { report with skippedSystems := report.skippedSystems ++ [id] }
  /-- Its row is passed over. -/
  | obstructed {s : StarSystem} (hhas : db.hasMapSystem id = .ok false)
      (hsome : db.referenceSystem? id = .ok (some s))
      (hadd : db.addMapSystem s = .ok (db, false)) : SystemStep prov db report id db report
  | added {s : StarSystem} {mid after : Database} (hhas : db.hasMapSystem id = .ok false)
      (hsome : db.referenceSystem? id = .ok (some s)) (hadd : db.addMapSystem s = .ok (mid, true))
      (haudit : mid.audit prov "system" (Decimal.integerText id) (.text s.name) = .ok after) :
      SystemStep prov db report id after { report with nodesInserted := report.nodesInserted + 1 }

/-- What one step of a path can lead to. -/
inductive GateStep (prov : Provenance) (db : Database) (report : BackfillReport)
    (a b : SystemId) : Database → BackfillReport → Prop
  /-- One of its ends was skipped. -/
  | skipped (hskip : a ∈ report.skippedSystems ∨ b ∈ report.skippedSystems) :
      GateStep prov db report a b db report
  /-- Neither of its gates comes in. -/
  | present (hskip : a ∉ report.skippedSystems ∧ b ∉ report.skippedSystems)
      (hthere : db.addGate a b = .ok (db, false)) (hback : db.addGate b a = .ok (db, false)) :
      GateStep prov db report a b db report
  | added {mid after last : Database} {there back : Bool}
      (hskip : a ∉ report.skippedSystems ∧ b ∉ report.skippedSystems)
      (hthere : db.addGate a b = .ok (mid, there)) (hback : mid.addGate b a = .ok (after, back))
      (haudit : after.audit prov "gate"
        (Decimal.integerText (min a b) ++ "-" ++ Decimal.integerText (max a b)) .null = .ok last) :
      GateStep prov db report a b last { report with edgesInserted := report.edgesInserted + 1 }

variable {db after : Database} {report report' : BackfillReport} {prov : Provenance}
  {id a b : SystemId} {path : List SystemId} {name : TableName}

/-- A system of a path leads to nothing else. -/
theorem systemStep_of_eq_ok
    (h : backfillSystem prov (db, report) id = .ok (after, report')) :
    SystemStep prov db report id after report' := by
  unfold backfillSystem at h
  obtain ⟨has, hhas, h⟩ := bind_eq_ok.mp h
  cases has with
  | true =>
    obtain ⟨rfl, rfl⟩ := Prod.mk.inj (pure_eq_ok.mp h)
    exact .present hhas
  | false =>
    obtain ⟨found, hfound, h⟩ := bind_eq_ok.mp h
    cases found with
    | none =>
      obtain ⟨rfl, rfl⟩ := Prod.mk.inj (pure_eq_ok.mp h)
      exact .unknown hhas hfound
    | some s =>
      obtain ⟨⟨mid, added⟩, hadd, h⟩ := bind_eq_ok.mp h
      cases added with
      | true =>
        obtain ⟨last, haudit, h⟩ := bind_eq_ok.mp h
        obtain ⟨rfl, rfl⟩ := Prod.mk.inj (pure_eq_ok.mp h)
        exact .added hhas hfound hadd haudit
      | false =>
        obtain ⟨rfl, rfl⟩ := Prod.mk.inj (pure_eq_ok.mp h)
        obtain rfl := eq_of_add_false hadd
        exact .obstructed hhas hfound hadd

/-- A step of a path leads to nothing else. -/
theorem gateStep_of_eq_ok
    (h : backfillStep prov (db, report) (a, b) = .ok (after, report')) :
    GateStep prov db report a b after report' := by
  unfold backfillStep at h
  dsimp only at h
  split at h
  · next hskip =>
    obtain ⟨rfl, rfl⟩ := Prod.mk.inj (pure_eq_ok.mp h)
    exact .skipped (by simpa using hskip)
  · next hskip =>
    have hskip : a ∉ report.skippedSystems ∧ b ∉ report.skippedSystems := by simpa using hskip
    obtain ⟨⟨mid, there⟩, hthere, h⟩ := bind_eq_ok.mp h
    obtain ⟨⟨last, back⟩, hback, h⟩ := bind_eq_ok.mp h
    split at h
    · obtain ⟨final, haudit, h⟩ := bind_eq_ok.mp h
      obtain ⟨rfl, rfl⟩ := Prod.mk.inj (pure_eq_ok.mp h)
      exact .added hskip hthere hback haudit
    · next hnone =>
      obtain ⟨rfl, rfl⟩ : there = false ∧ back = false := by simpa using hnone
      obtain ⟨rfl, rfl⟩ := Prod.mk.inj (pure_eq_ok.mp h)
      obtain rfl := eq_of_add_false hback
      obtain rfl := eq_of_add_false hthere
      exact .present hskip hthere hback

/-- **What holds of every system and every step of a path holds of a backfill.** -/
theorem backfillPath_related {R : Database × BackfillReport → Database × BackfillReport → Prop}
    (hrefl : ∀ x, R x x) (htrans : ∀ {x y z}, R x y → R y z → R x z)
    (hsystem : ∀ {db report id after report'}, id ∈ path →
      SystemStep prov db report id after report' → R (db, report) (after, report'))
    (hgate : ∀ {db report a b after report'}, GateStep prov db report a b after report' →
      R (db, report) (after, report'))
    (h : db.backfillPath prov path = .ok (after, report)) : R (db, {}) (after, report) := by
  obtain ⟨mid, hsystems, hgates⟩ := bind_eq_ok.mp h
  exact htrans
    (foldlM_related hrefl htrans
      (fun hid hstep => hsystem hid (systemStep_of_eq_ok hstep)) hsystems)
    (foldlM_related hrefl htrans (fun _ hstep => hgate (gateStep_of_eq_ok hstep)) hgates)

/-! ## Everything written is counted -/

/-- From one state to another something was counted, or nothing was changed. -/
def Counted (before after : Database × BackfillReport) : Prop :=
  before.2.written < after.2.written ∨
    before.2.written = after.2.written ∧ after.1 = before.1

theorem Counted.refl (x : Database × BackfillReport) : Counted x x :=
  .inr ⟨rfl, rfl⟩

theorem Counted.trans {x y z : Database × BackfillReport} (hxy : Counted x y)
    (hyz : Counted y z) : Counted x z := by
  rcases hxy with hlt | ⟨heq, hdb⟩ <;> rcases hyz with hlt' | ⟨heq', hdb'⟩
  · exact .inl (by omega)
  · exact .inl (by omega)
  · exact .inl (by omega)
  · exact .inr ⟨by omega, hdb'.trans hdb⟩

/-- What a system of a path leads to is counted. -/
theorem SystemStep.counted (h : SystemStep prov db report id after report') :
    Counted (db, report) (after, report') := by
  cases h with
  | present | unknown | obstructed => exact .inr ⟨rfl, rfl⟩
  | added => exact .inl (by simp only [BackfillReport.written]; omega)

/-- What a step of a path leads to is counted. -/
theorem GateStep.counted (h : GateStep prov db report a b after report') :
    Counted (db, report) (after, report') := by
  cases h with
  | skipped | present => exact .inr ⟨rfl, rfl⟩
  | added => exact .inl (by simp only [BackfillReport.written]; omega)

/-- **A backfill counts all that it writes**: where its report is empty, it has
written nothing. -/
theorem backfillPath_of_isEmpty (h : db.backfillPath prov path = .ok (after, report))
    (hempty : report.isEmpty = true) : after = db := by
  rcases backfillPath_related Counted.refl Counted.trans (fun _ => SystemStep.counted)
    GateStep.counted h with hlt | ⟨-, hsame⟩
  · simp only [BackfillReport.isEmpty, BackfillReport.written, Bool.and_eq_true, beq_iff_eq]
      at hempty hlt
    omega
  · exact hsame

/-! ## The tables written -/

/-- Whether a backfill writes into a table. -/
def Backfilled (name : TableName) : Prop :=
  name ∈ [TableName.mapSystems, .mapSystemGates, .backfillAudit]

instance : DecidablePred Backfilled :=
  fun name => inferInstanceAs (Decidable (name ∈ [TableName.mapSystems, _, _]))

/-- From one state to another no table was changed that a backfill does not write
into. -/
def SparesOthers (before after : Database × BackfillReport) : Prop :=
  ∀ name, ¬ Backfilled name → after.1.table? name = before.1.table? name

theorem SystemStep.sparesOthers (h : SystemStep prov db report id after report') :
    SparesOthers (db, report) (after, report') := by
  intro name hname
  simp only [Backfilled, List.mem_cons, List.not_mem_nil, or_false, not_or] at hname
  cases h with
  | present | unknown | obstructed => rfl
  | added _ _ hadd haudit =>
    exact (table?_of_insert haudit hname.2.2).trans (table?_of_add hadd hname.1)

theorem GateStep.sparesOthers (h : GateStep prov db report a b after report') :
    SparesOthers (db, report) (after, report') := by
  intro name hname
  simp only [Backfilled, List.mem_cons, List.not_mem_nil, or_false, not_or] at hname
  cases h with
  | skipped | present => rfl
  | added _ hthere hback haudit =>
    exact (table?_of_insert haudit hname.2.2).trans
      ((table?_of_add hback hname.2.1).trans (table?_of_add hthere hname.2.1))

/-- **A backfill leaves the other tables alone.** -/
theorem table?_of_backfillPath (h : db.backfillPath prov path = .ok (after, report))
    (hname : ¬ Backfilled name) : after.table? name = db.table? name :=
  backfillPath_related (R := SparesOthers) (fun _ _ _ => rfl)
    (fun hxy hyz name hname => (hyz name hname).trans (hxy name hname))
    (fun _ => SystemStep.sparesOthers) GateStep.sparesOthers h name hname

end Database

end StarFreight
