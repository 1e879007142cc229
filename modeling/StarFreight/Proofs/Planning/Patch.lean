import Mathlib.Algebra.Order.Ring.Int
import Mathlib.Data.List.Nodup
import Mathlib.Data.List.Perm.Subperm
import StarFreight.Avoidance.Rule
import StarFreight.Proofs.Decimal.IntegerText
import StarFreight.Proofs.Planning.Entries
/-!
# Planning — patches

A patch is what the graph of a database lacks of given systems and steps:
systems that it does not have and that are among all systems, and gates
between systems that are known (`Lacks`). It is told by which systems and which
steps are given, so neither their order nor how often they are given matters
(`Lacks.systems_perm`, `Lacks.gates_perm`). A database that was patched has the
rows of the patch beside its own, and a record for each system and for each
connection that gained a gate (`Patched`). What it still lacks of more systems
and steps makes one patch with what it was given (`Lacks.append`); so patches
add up, step by step and path by path.
-/

namespace StarFreight

/-- What is added to a graph. -/
structure Patch where
  systems : List StarSystem := []
  gates : List (SystemId × SystemId) := []
  /-- The connections that gain a gate, in one direction at least. -/
  links : List Link := []

namespace Patch

/-- One patch and another on top of it. -/
def append (p q : Patch) : Patch where
  systems := p.systems ++ q.systems
  gates := p.gates ++ q.gates
  links := p.links ++ q.links

/-- The record of a system that is added. -/
def systemEntry (s : StarSystem) : String × String :=
  ("system", Decimal.integerText s.id)

/-- The record of a connection that gains a gate. -/
def linkEntry (link : Link) : String × String :=
  ("gate", Decimal.integerText link.low ++ "-" ++ Decimal.integerText link.high)

/-- A connection is recorded under its smaller end and its larger one. -/
theorem linkEntry_between (a b : SystemId) : linkEntry (.between a b) =
    ("gate", Decimal.integerText (min a b) ++ "-" ++ Decimal.integerText (max a b)) := by
  unfold Link.between linkEntry
  split
  · next hle => rw [min_eq_left hle, max_eq_right hle]
  · next hle =>
    have hle : b ≤ a := le_of_not_ge hle
    rw [min_eq_right hle, max_eq_left hle]

theorem linkEntry_injective : Function.Injective linkEntry := by
  rintro ⟨a, b⟩ ⟨c, d⟩ h
  obtain ⟨rfl, rfl⟩ := Decimal.dashedText_injective (congrArg Prod.snd h)
  rfl

/-- The records of a patch: one of each system and one of each connection. -/
def records (p : Patch) : List (String × String) :=
  p.systems.map systemEntry ++ p.links.map linkEntry

theorem length_records (p : Patch) : p.records.length = p.systems.length + p.links.length := by
  simp [records]

theorem records_append_perm (p q : Patch) :
    (p.append q).records.Perm (p.records ++ q.records) := by
  simp only [records, append, List.map_append, List.append_assoc]
  refine .append_left _ ?_
  simp only [← List.append_assoc]
  exact .append_right _ List.perm_append_comm

end Patch

namespace Database

variable {db before mid after : Database} {name : TableName} {rows rows' : List Row}
  {key : List Cell} {p q : Patch} {ids ids' : List SystemId}
  {steps steps' : List (SystemId × SystemId)} {id a b : SystemId} {s : StarSystem} {n m : Nat}

/-! ## Rows that come in -/

theorem gains_nil (h : before.Standard) (hname : name ∈ upkeepTables)
    (hsame : after.table? name = before.table? name) : before.Gains name [] after := by
  obtain ⟨t, ht, -⟩ := h name hname
  exact ⟨t, t, ht, hsame.trans ht, .refl _⟩

theorem Gains.trans (h : before.Gains name rows mid) (h' : mid.Gains name rows' after) :
    before.Gains name (rows ++ rows') after := by
  obtain ⟨t, t', ht, ht', hrows⟩ := h
  obtain ⟨_, t'', hmid, ht'', hrows'⟩ := h'
  obtain rfl := Option.some.inj (ht'.symm.trans hmid)
  refine ⟨t, t'', ht, ht'', hrows'.trans ((hrows.append_left rows').trans ?_)⟩
  rw [← List.append_assoc]
  exact List.perm_append_comm.append_right t.rows

theorem Gains.congr (h : before.Gains name rows mid)
    (hsame : after.table? name = mid.table? name) : before.Gains name rows after := by
  obtain ⟨t, t', ht, ht', hrows⟩ := h
  exact ⟨t, t', ht, hsame.trans ht', hrows⟩

theorem Gains.congr_left (h : mid.Gains name rows after)
    (hsame : mid.table? name = before.table? name) : before.Gains name rows after := by
  obtain ⟨t, t', ht, ht', hrows⟩ := h
  exact ⟨t, t', hsame ▸ ht, ht', hrows⟩

/-- A key is in a table that gained rows if it was or is one of theirs. -/
theorem Gains.hasKey_iff (h : before.Gains name rows after) (hbefore : before.Standard)
    (hafter : after.Standard) (hname : name ∈ upkeepTables)
    (hkeyed : name.emptyTable.keyWidth ≠ 0) : after.HasKey name key ↔ before.HasKey name key ∨
      ∃ row ∈ rows, Table.keySame (row.take name.emptyTable.keyWidth) key = true := by
  obtain ⟨t, ht, hown⟩ := hbefore name hname
  obtain ⟨t', ht', hown'⟩ := hafter name hname
  obtain ⟨_, _, hbefore, hafter, hrows⟩ := h
  obtain rfl := Option.some.inj (ht.symm.trans hbefore)
  obtain rfl := Option.some.inj (ht'.symm.trans hafter)
  have hheld : t'.holdsKey key = true ↔ _ := Table.holdsKey_of_perm
    (hown'.keyWidth.trans hown.keyWidth.symm) (hown.keyWidth ▸ hkeyed) hrows
  simpa only [HasKey, ht, ht', Option.some.injEq, exists_eq_left', hown.keyWidth] using hheld

/-- A gate is in a graph that gained gates if it was or is one of them. -/
theorem Gains.hasGate_iff {gates : List (SystemId × SystemId)}
    (h : before.Gains .mapSystemGates (gates.map gateRow) after) (hbefore : before.Standard)
    (hafter : after.Standard) : after.HasGate a b ↔ before.HasGate a b ∨ (a, b) ∈ gates := by
  refine (h.hasKey_iff hbefore hafter (by decide) (by decide)).trans (or_congr_right ?_)
  simp only [List.mem_map, exists_exists_and_eq_and]
  constructor
  · rintro ⟨⟨c, d⟩, hgate, hsame⟩
    obtain ⟨rfl, rfl⟩ := Table.keySame_integers.mp hsame
    exact hgate
  · exact fun hgate => ⟨(a, b), hgate, Table.keySame_integers.mpr ⟨rfl, rfl⟩⟩

theorem Gained.refl (h : db.Standard) (hname : name ∈ upkeepTables) : db.Gained name [] db where
  standard := h
  gains := gains_nil h hname rfl
  others _ _ := rfl

theorem Gained.trans (h : before.Gained name rows mid) (h' : mid.Gained name rows' after) :
    before.Gained name (rows ++ rows') after where
  standard := h'.standard
  gains := h.gains.trans h'.gains
  others other hother := (h'.others other hother).trans (h.others other hother)

/-! ## Numbers that are left -/

theorem HasRoom.mono (h : db.HasRoom n) (hle : m ≤ n) : db.HasRoom m :=
  fun k hpos hk => h k hpos (hk.trans hle)

theorem lastUsed_congr (h : after.table? .backfillAudit = db.table? .backfillAudit) :
    after.lastUsed = db.lastUsed := by
  rw [lastUsed, lastUsed, h]

theorem hasRoom_congr (h : after.table? .backfillAudit = db.table? .backfillAudit) :
    after.HasRoom n ↔ db.HasRoom n := by
  rw [HasRoom, HasRoom, lastUsed_congr h]

theorem hasRoom_zero (db : Database) : db.HasRoom 0 :=
  fun _ hpos hle => absurd (hpos.trans_le hle) (Nat.lt_irrefl 0)

/-- Numbers are left for some records and then for more, or for all at once. -/
theorem hasRoom_add (hused : mid.lastUsed = before.lastUsed + n) :
    before.HasRoom (n + m) ↔ before.HasRoom n ∧ mid.HasRoom m := by
  constructor
  · refine fun h => ⟨h.mono (Nat.le_add_right n m), fun k hpos hk => ?_⟩
    have hfits := h (n + k) (by omega) (by omega)
    rwa [Nat.cast_add, ← add_assoc, ← hused] at hfits
  · rintro ⟨hn, hm⟩ k hpos hk
    by_cases hle : k ≤ n
    · exact hn k hpos hle
    · have hfits := hm (k - n) (by omega) (by omega)
      rwa [hused, add_assoc, ← Nat.cast_add, Nat.add_sub_cancel' (by omega)] at hfits

/-! ## Databases that are patched -/

/-- From one database to another a patch was added, and recorded. -/
structure Patched (before : Database) (patch : Patch) (after : Database) : Prop where
  standard : after.Standard
  spares : ∀ name, ¬ Backfilled name → after.table? name = before.table? name
  systems : before.Gains .mapSystems (patch.systems.map systemRow) after
  gates : before.Gains .mapSystemGates (patch.gates.map gateRow) after
  records : ∃ rows, before.Gains .backfillAudit rows after ∧
    (rows.map auditEntry).Perm (patch.records.map some)
  room : before.HasRoom patch.records.length
  used : after.lastUsed = before.lastUsed + patch.records.length

theorem Patched.refl (h : db.Standard) : db.Patched {} db where
  standard := h
  spares _ _ := rfl
  systems := gains_nil h (by decide) rfl
  gates := gains_nil h (by decide) rfl
  records := ⟨[], gains_nil h (by decide) rfl, .nil⟩
  room := hasRoom_zero db
  used := (add_zero _).symm

namespace Patched

/-- Numbers are left for one patch on top of another if they are left for it then. -/
theorem hasRoom_append (h : before.Patched p mid) :
    before.HasRoom (p.append q).records.length ↔ mid.HasRoom q.records.length := by
  rw [(p.records_append_perm q).length_eq, List.length_append, hasRoom_add h.used]
  exact and_iff_right h.room

theorem trans (h : before.Patched p mid) (h' : mid.Patched q after) :
    before.Patched (p.append q) after := by
  have hlength := (p.records_append_perm q).length_eq
  rw [List.length_append] at hlength
  refine ⟨h'.standard, fun name hname => (h'.spares name hname).trans (h.spares name hname),
    ?_, ?_, ?_, ?_, ?_⟩
  · rw [Patch.append, List.map_append]
    exact h.systems.trans h'.systems
  · rw [Patch.append, List.map_append]
    exact h.gates.trans h'.gates
  · obtain ⟨rows, hrows, hentries⟩ := h.records
    obtain ⟨rows', hrows', hentries'⟩ := h'.records
    refine ⟨rows ++ rows', hrows.trans hrows', ?_⟩
    rw [List.map_append]
    refine (hentries.append hentries').trans ?_
    rw [← List.map_append]
    exact ((p.records_append_perm q).map some).symm
  · exact h.hasRoom_append.mpr h'.room
  · rw [h'.used, h.used, hlength, Nat.cast_add, add_assoc]

theorem referenceSystem?_eq (h : before.Patched p after) (id : SystemId) :
    after.referenceSystem? id = before.referenceSystem? id :=
  systemIn?_congr (h.spares .referenceSystems (by decide))

/-- The graph has the systems that it had, and those of the patch. -/
theorem hasSystem_iff (h : before.Patched p after) (hbefore : before.Standard) :
    after.HasSystem id ↔ before.HasSystem id ∨ ∃ s ∈ p.systems, s.id = id := by
  refine (h.systems.hasKey_iff hbefore h.standard (by decide) (by decide)).trans
    (or_congr_right ?_)
  simp only [List.mem_map, exists_exists_and_eq_and]
  exact exists_congr fun s => and_congr_right fun _ => Table.keySame_integer

/-- The graph has the gates that it had, and those of the patch. -/
theorem hasGate_iff (h : before.Patched p after) (hbefore : before.Standard) :
    after.HasGate a b ↔ before.HasGate a b ∨ (a, b) ∈ p.gates :=
  h.gates.hasGate_iff hbefore h.standard

end Patched

/-! ## What a database lacks -/

/-- Whether a system is in the graph or among all systems. -/
def Known (db : Database) (id : SystemId) : Prop :=
  db.HasSystem id ∨ ∃ s, db.referenceSystem? id = .ok (some s)

/-- Whether it can be told if a system is known. -/
def Readable (db : Database) (id : SystemId) : Prop :=
  db.HasSystem id ∨ ∃ found, db.referenceSystem? id = .ok found

/-- A patch holds what a database lacks of the given systems and steps. -/
structure Lacks (db : Database) (ids : List SystemId) (steps : List (SystemId × SystemId))
    (patch : Patch) : Prop where
  mem_systems : ∀ s, s ∈ patch.systems ↔
    s.id ∈ ids ∧ ¬ db.HasSystem s.id ∧ db.referenceSystem? s.id = .ok (some s)
  mem_gates : ∀ a b, (a, b) ∈ patch.gates ↔
    ((a, b) ∈ steps ∨ (b, a) ∈ steps) ∧ (db.Known a ∧ db.Known b) ∧ ¬ db.HasGate a b
  mem_links : ∀ link, link ∈ patch.links ↔ ∃ gate ∈ patch.gates, link = .between gate.1 gate.2
  nodup_systems : patch.systems.Nodup
  nodup_gates : patch.gates.Nodup
  nodup_links : patch.links.Nodup

/-- Nothing is lacking where all is there that can be. -/
theorem lacks_nothing
    (hsystems : ∀ id ∈ ids, ∀ s, db.referenceSystem? id = .ok (some s) → db.HasSystem id)
    (hgates : ∀ step ∈ steps, db.Known step.1 → db.Known step.2 →
      db.HasGate step.1 step.2 ∧ db.HasGate step.2 step.1) : db.Lacks ids steps {} where
  mem_systems s := by
    refine iff_of_false List.not_mem_nil ?_
    rintro ⟨hid, hnew, hfound⟩
    exact hnew (hsystems s.id hid s hfound)
  mem_gates a b := by
    refine iff_of_false List.not_mem_nil ?_
    rintro ⟨hstep | hstep, ⟨ha, hb⟩, hnew⟩
    · exact hnew (hgates _ hstep ha hb).1
    · exact hnew (hgates _ hstep hb ha).2
  mem_links link := by simp
  nodup_systems := .nil
  nodup_gates := .nil
  nodup_links := .nil

/-- A system that the graph lacks is lacking. -/
theorem lacks_system (hnew : ¬ db.HasSystem s.id)
    (hfound : db.referenceSystem? s.id = .ok (some s)) : db.Lacks [s.id] [] { systems := [s] } where
  mem_systems other := by
    rw [List.mem_singleton, List.mem_singleton]
    constructor
    · rintro rfl
      exact ⟨rfl, hnew, hfound⟩
    · rintro ⟨hid, -, hother⟩
      rw [hid, hfound] at hother
      exact (Option.some.inj (Except.ok.inj hother)).symm
  mem_gates a b := by simp
  mem_links link := by simp
  nodup_systems := List.nodup_singleton s
  nodup_gates := .nil
  nodup_links := .nil

/-- The gates of a step that are not there are lacking, and so is their connection. -/
theorem lacks_gates {gates : List (SystemId × SystemId)} (ha : db.Known a) (hb : db.Known b)
    (hgates : ∀ c d, (c, d) ∈ gates ↔ ((a, b) = (c, d) ∨ (a, b) = (d, c)) ∧ ¬ db.HasGate c d)
    (hnodup : gates.Nodup) (hsome : gates ≠ []) :
    db.Lacks [] [(a, b)] { gates, links := [.between a b] } where
  mem_systems s := by simp
  mem_gates c d := by
    rw [hgates, List.mem_singleton, List.mem_singleton, eq_comm, @eq_comm _ (d, c)]
    refine and_congr_right fun hstep => (and_iff_right ?_).symm
    rcases hstep with hstep | hstep
    · obtain ⟨rfl, rfl⟩ := Prod.mk.inj hstep
      exact ⟨ha, hb⟩
    · obtain ⟨rfl, rfl⟩ := Prod.mk.inj hstep
      exact ⟨hb, ha⟩
  mem_links link := by
    have hlink : ∀ gate ∈ gates, Link.between gate.1 gate.2 = .between a b := by
      rintro ⟨c, d⟩ hgate
      rcases ((hgates c d).mp hgate).1 with hstep | hstep
      · obtain ⟨rfl, rfl⟩ := Prod.mk.inj hstep
        rfl
      · obtain ⟨rfl, rfl⟩ := Prod.mk.inj hstep
        exact Link.between_comm _ _
    rw [List.mem_singleton]
    constructor
    · rintro rfl
      obtain ⟨gate, hgate⟩ := List.exists_mem_of_ne_nil gates hsome
      exact ⟨gate, hgate, (hlink gate hgate).symm⟩
    · rintro ⟨gate, hgate, rfl⟩
      exact hlink gate hgate
  nodup_systems := .nil
  nodup_gates := hnodup
  nodup_links := List.nodup_singleton _

/-- What is lacking goes by different numbers. -/
theorem Lacks.eq_of_id_eq (h : db.Lacks ids steps p) {s' : StarSystem} (hs : s ∈ p.systems)
    (hs' : s' ∈ p.systems) (hid : s.id = s'.id) : s = s' := by
  have hfound := ((h.mem_systems s).mp hs).2.2
  rw [hid, ((h.mem_systems s').mp hs').2.2] at hfound
  exact (Option.some.inj (Except.ok.inj hfound)).symm

/-- **No two records of what is lacking are the same.** -/
theorem Lacks.nodup_records (h : db.Lacks ids steps p) : p.records.Nodup := by
  refine List.nodup_append'.mpr ⟨h.nodup_systems.map_on ?_,
    h.nodup_links.map Patch.linkEntry_injective, fun entry hsystem hlink => ?_⟩
  · intro s hs s' hs' hsame
    exact h.eq_of_id_eq hs hs' (Decimal.integerText_injective (congrArg Prod.snd hsame))
  · obtain ⟨s, -, rfl⟩ := List.mem_map.mp hsystem
    obtain ⟨link, -, hsame⟩ := List.mem_map.mp hlink
    have hkind : "gate" = "system" := congrArg Prod.fst hsame
    exact absurd hkind (by decide)

namespace Lacks

variable (h : before.Lacks ids steps p)

section Patched

variable (hpatched : before.Patched p after) (hbefore : before.Standard)

include h hpatched hbefore

/-- A patch makes no difference to what holds of all systems that it adds. -/
theorem hasSystem_or_iff {P : Prop}
    (hP : ∀ s, before.referenceSystem? id = .ok (some s) → P) :
    after.HasSystem id ∨ P ↔ before.HasSystem id ∨ P := by
  rw [hpatched.hasSystem_iff hbefore]
  refine ⟨?_, fun hor => hor.imp_left .inl⟩
  rintro ((hhas | ⟨s, hs, hid⟩) | hp)
  · exact .inl hhas
  · exact .inr (hP s (hid ▸ ((h.mem_systems s).mp hs).2.2))
  · exact .inr hp

/-- A patch makes no system known that was not. -/
theorem known_iff : after.Known id ↔ before.Known id := by
  rw [Known, Known, hpatched.referenceSystem?_eq]
  exact h.hasSystem_or_iff hpatched hbefore fun s hs => ⟨s, hs⟩

theorem readable_iff : after.Readable id ↔ before.Readable id := by
  rw [Readable, Readable, hpatched.referenceSystem?_eq]
  exact h.hasSystem_or_iff hpatched hbefore fun s hs => ⟨some s, hs⟩

/-- A patched graph has the given systems that are known. -/
theorem hasSystem_of_known (hid : id ∈ ids) (hknown : before.Known id) : after.HasSystem id := by
  rw [hpatched.hasSystem_iff hbefore]
  by_cases hhas : before.HasSystem id
  · exact .inl hhas
  · obtain ⟨s, hs⟩ := hknown.resolve_left hhas
    obtain rfl := id_of_systemIn? hs
    exact .inr ⟨s, (h.mem_systems s).mpr ⟨hid, hhas, hs⟩, rfl⟩

/-- A patched graph has the gates of the given steps between known systems. -/
theorem hasGate_of_step (hstep : (a, b) ∈ steps ∨ (b, a) ∈ steps) (ha : before.Known a)
    (hb : before.Known b) : after.HasGate a b := by
  rw [hpatched.hasGate_iff hbefore, or_iff_not_imp_left]
  exact fun hnew => (h.mem_gates a b).mpr ⟨hstep, ⟨ha, hb⟩, hnew⟩

/-- A patched graph lacks nothing of what it was patched for. -/
theorem lacks_nothing : after.Lacks ids steps {} := by
  refine Database.lacks_nothing (fun id hid s hs => ?_) fun step hstep ha hb => ?_
  · rw [hpatched.referenceSystem?_eq] at hs
    exact h.hasSystem_of_known hpatched hbefore hid (.inr ⟨s, hs⟩)
  · rw [h.known_iff hpatched hbefore] at ha hb
    exact ⟨h.hasGate_of_step hpatched hbefore (.inl hstep) ha hb,
      h.hasGate_of_step hpatched hbefore (.inr hstep) hb ha⟩

/-- A connection that gained a gate has both. -/
theorem hasGate_of_link {gate : SystemId × SystemId} (hgate : gate ∈ p.gates)
    (hlink : Link.between gate.1 gate.2 = .between a b) : after.HasGate a b := by
  obtain ⟨hstep, ⟨hfirst, hsecond⟩, -⟩ := (h.mem_gates gate.1 gate.2).mp hgate
  rcases Link.between_eq_iff.mp hlink with ⟨rfl, rfl⟩ | ⟨rfl, rfl⟩
  · exact h.hasGate_of_step hpatched hbefore hstep hfirst hsecond
  · exact h.hasGate_of_step hpatched hbefore hstep.symm hsecond hfirst

/-- **What is still lacking of more systems and steps makes one patch with what was
lacking before.** -/
theorem append (h' : after.Lacks ids' steps' q) :
    before.Lacks (ids ++ ids') (steps ++ steps') (p.append q) where
  mem_systems s := by
    rw [Patch.append, List.mem_append, List.mem_append, h.mem_systems, h'.mem_systems,
      hpatched.hasSystem_iff hbefore, hpatched.referenceSystem?_eq]
    constructor
    · rintro (⟨hid, hnew, hs⟩ | ⟨hid, hnew, hs⟩)
      · exact ⟨.inl hid, hnew, hs⟩
      · exact ⟨.inr hid, fun hhas => hnew (.inl hhas), hs⟩
    · rintro ⟨hid | hid, hnew, hs⟩
      · exact .inl ⟨hid, hnew, hs⟩
      -- a system that is given twice was added the first time
      · by_cases hgiven : s.id ∈ ids
        · exact .inl ⟨hgiven, hnew, hs⟩
        · refine .inr ⟨hid, ?_, hs⟩
          rintro (hhas | ⟨s', hs', hsame⟩)
          · exact hnew hhas
          · exact hgiven (hsame ▸ ((h.mem_systems s').mp hs').1)
  mem_gates a b := by
    rw [Patch.append, List.mem_append, List.mem_append, List.mem_append, h'.mem_gates,
      hpatched.hasGate_iff hbefore, h.known_iff hpatched hbefore, h.known_iff hpatched hbefore,
      h.mem_gates]
    tauto
  mem_links link := by
    simp only [Patch.append, List.mem_append, h.mem_links, h'.mem_links, or_and_right, exists_or]
  nodup_systems := by
    refine List.nodup_append'.mpr ⟨h.nodup_systems, h'.nodup_systems, fun s hs hs' => ?_⟩
    have hnew := ((h'.mem_systems s).mp hs').2.1
    exact hnew ((hpatched.hasSystem_iff hbefore).mpr (.inr ⟨s, hs, rfl⟩))
  nodup_gates := by
    refine List.nodup_append'.mpr ⟨h.nodup_gates, h'.nodup_gates, fun gate hgate hgate' => ?_⟩
    have hnew := ((h'.mem_gates gate.1 gate.2).mp hgate').2.2
    exact hnew ((hpatched.hasGate_iff hbefore).mpr (.inr hgate))
  nodup_links := by
    refine List.nodup_append'.mpr ⟨h.nodup_links, h'.nodup_links, fun link hlink hlink' => ?_⟩
    obtain ⟨gate, hgate, rfl⟩ := (h.mem_links link).mp hlink
    obtain ⟨gate', hgate', hsame⟩ := (h'.mem_links _).mp hlink'
    have hnew := ((h'.mem_gates gate'.1 gate'.2).mp hgate').2.2
    exact hnew (h.hasGate_of_link hpatched hbefore hgate hsame)

end Patched

variable (h' : before.Lacks ids' steps' q)

include h h'

theorem systems_subset (hids : ids ⊆ ids') : p.systems ⊆ q.systems := by
  intro s hs
  obtain ⟨hid, hrest⟩ := (h.mem_systems s).mp hs
  exact (h'.mem_systems s).mpr ⟨hids hid, hrest⟩

theorem gates_subset (hsteps : steps ⊆ steps') : p.gates ⊆ q.gates := by
  rintro ⟨a, b⟩ hgate
  obtain ⟨hstep, hrest⟩ := (h.mem_gates a b).mp hgate
  exact (h'.mem_gates a b).mpr ⟨hstep.imp (@hsteps _) (@hsteps _), hrest⟩

/-- More records are lacking of more systems and steps. -/
theorem length_records_le (hids : ids ⊆ ids') (hsteps : steps ⊆ steps') :
    p.records.length ≤ q.records.length := by
  have hlinks : p.links ⊆ q.links := by
    intro link hlink
    obtain ⟨gate, hgate, hsame⟩ := (h.mem_links link).mp hlink
    exact (h'.mem_links link).mpr ⟨gate, h.gates_subset h' hsteps hgate, hsame⟩
  rw [p.length_records, q.length_records]
  exact Nat.add_le_add (h.nodup_systems.subperm (h.systems_subset h' hids)).length_le
    (h.nodup_links.subperm hlinks).length_le

/-- **What is lacking depends on which systems are given.** -/
theorem systems_perm (hids : ∀ id, id ∈ ids ↔ id ∈ ids') : p.systems.Perm q.systems := by
  refine (List.perm_ext_iff_of_nodup h.nodup_systems h'.nodup_systems).mpr fun s => ?_
  exact ⟨fun hs => h.systems_subset h' (fun id => (hids id).mp) hs,
    fun hs => h'.systems_subset h (fun id => (hids id).mpr) hs⟩

/-- **And on which steps.** -/
theorem gates_perm (hsteps : ∀ step, step ∈ steps ↔ step ∈ steps') : p.gates.Perm q.gates := by
  refine (List.perm_ext_iff_of_nodup h.nodup_gates h'.nodup_gates).mpr fun gate => ?_
  exact ⟨fun hgate => h.gates_subset h' (fun step => (hsteps step).mp) hgate,
    fun hgate => h'.gates_subset h (fun step => (hsteps step).mpr) hgate⟩

end Lacks

end Database

end StarFreight
