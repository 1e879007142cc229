import StarFreight.Cli.Disk.Host
import StarFreight.Proofs.Cli.Keeper
/-!
# Cli — disks keep a database

A machine with a disk keeps a database that lies under its root, as long as nothing
stands beside it (`Disk.serves`). The disk may change in no other place, so every other
file reads as it did (`Disk.fileText_congr`).
-/

namespace StarFreight

namespace Disk

variable {disk base : Disk} {location place : Location}

theorem contents?_put_of_ne (disk : Disk) (entry : DiskEntry) (h : place ≠ location) :
    (disk.put location entry).contents? place = disk.contents? place := by
  have hbeq : (place == location) = false := beq_eq_false_iff_ne.mpr h
  simp only [contents?, put, List.lookup_cons, hbeq]

theorem contents?_remove_of_ne (disk : Disk) (h : place ≠ location) :
    (disk.remove location).contents? place = disk.contents? place := by
  have hlist : ∀ entries : List (Location × DiskEntry),
      (entries.filter fun e => !(location == e.1)).lookup place = entries.lookup place := by
    intro entries
    induction entries with
    | nil => rfl
    | cons e entries ih =>
      obtain ⟨other, entry⟩ := e
      by_cases hother : location = other
      · have hbeq : (place == other) = false := beq_eq_false_iff_ne.mpr (hother ▸ h)
        rw [List.filter_cons_of_neg (by simp [hother]), ih, List.lookup_cons, hbeq]
      · rw [List.filter_cons_of_pos (by simpa using hother), List.lookup_cons, List.lookup_cons, ih]
  simp only [contents?, remove, hlist]

/-! ## Disks that differ in a database -/

/-- A disk that holds a database at a location and agrees with another one, which holds a
database there too, at all others. -/
structure Keeps (base : Disk) (location : Location) (disk : Disk) : Prop where
  working : disk.working = base.working
  others : ∀ place ≠ location, disk.contents? place = base.contents? place
  database : ∃ db, disk.contents? location = some (.database db)

/-- What a database at a location holds. -/
def databaseAt (disk : Disk) (location : Location) : Database :=
  match disk.contents? location with
  | some (.database db) => db
  | _ => {}

theorem databaseAt_of_contents? {db : Database}
    (h : disk.contents? location = some (.database db)) : disk.databaseAt location = db := by
  rw [databaseAt, h]

section Agreement

variable (hbase : ∃ db, base.contents? location = some (.database db))
  (h : base.Keeps location disk)

include hbase h

theorem demandDirectory_congr (place : Location) :
    disk.demandDirectory place = base.demandDirectory place := by
  unfold demandDirectory
  by_cases hplace : place = location
  · obtain ⟨db, hdb⟩ := hbase
    obtain ⟨db', hdb'⟩ := h.database
    rw [hplace, hdb, hdb']
  · rw [h.others place hplace]

theorem walk_congr (place : Location) (steps : List PathStep) :
    disk.walk place steps = base.walk place steps := by
  induction steps generalizing place with
  | nil => rfl
  | cons step steps ih =>
    unfold walk
    rw [demandDirectory_congr hbase h]
    simp only [ih]

/-- **Texts are read off both alike.** -/
theorem fileText_congr (path : Path) : disk.fileText path = base.fileText path := by
  have hlocate : disk.locate path = base.locate path := by
    rw [locate, locate, walk_congr hbase h, start, start, h.working]
  unfold fileText find
  rw [hlocate]
  cases base.locate path with
  | error fault => rfl
  | ok place =>
    by_cases hplace : place = location
    · obtain ⟨db, hdb⟩ := hbase
      obtain ⟨db', hdb'⟩ := h.database
      simp only [hplace, hdb, hdb']
    · simp only [h.others place hplace]

end Agreement

/-! ## A database under the root -/

/-- A disk with a database under its root, under a name short enough for names beside it,
and nothing beside it. -/
structure HasDatabase (base : Disk) (name : FileName) : Prop where
  short : name.length ≤ 200
  database : ∃ db, base.contents? [name] = some (.database db)
  journal : base.contents? [name ++ Companion.journal.ending.toUTF8.toList] = none
  log : base.contents? [name ++ Companion.log.ending.toUTF8.toList] = none

/-- The keeper of a database under the root of a disk. -/
def keeper (base : Disk) (name : FileName) : Keeper Disk where
  file := { path := .ofNames [name] }
  ready := base.Keeps [name]
  held disk := disk.databaseAt [name]
  handle opened := opened.file.path = .ofNames [name] ∧ opened.change = .journaled
  handle_database _ _ h := h

variable {name : FileName}

/-- The name of a companion is another one. -/
theorem companion_ne (companion : Companion) :
    ([name ++ companion.ending.toUTF8.toList] : Location) ≠ [name] := by
  have hending : companion.ending.toUTF8.toList ≠ [] := by
    cases companion <;> decide +kernel
  intro hsame
  have hnames := List.singleton_inj.mp hsame
  exact hending (List.append_right_eq_self.mp hnames)

section Root

variable (hbase : base.HasDatabase name)

include hbase

theorem databaseLocation?_root (disk : Disk) :
    disk.databaseLocation? (.ofNames [name]) = some [name] := by
  have hshort := hbase.short
  have hlength : reckonedLength [name] = name.length + 1 := rfl
  -- the one step is taken in the root, which is always a directory
  have hreckon : disk.reckon? (.ofNames [name]) = some [name] := by
    have hroot : disk.contents? [] = some .directory := rfl
    have hname : ¬ longestName < name.length := by
      show ¬ 255 < name.length
      omega
    have hpath : ¬ longestReckoned < reckonedLength [name] := by
      rw [hlength]
      show ¬ 511 < name.length + 1
      omega
    simp only [reckon?, Path.ofNames, start, List.map_cons, List.map_nil, List.foldlM_cons,
      List.foldlM_nil, hroot, if_neg hname, reckon?.extend, List.nil_append, if_neg hpath,
      if_true, Option.bind_eq_bind, Option.bind_some, Option.pure_def]
  rw [databaseLocation?, hreckon, Option.filter_some, if_pos]
  rw [hlength, longestDatabasePath]
  simp
  omega

theorem companion?_root (companion : Companion) : Disk.companion? [name] companion =
    some [name ++ companion.ending.toUTF8.toList] := by
  have hshort := hbase.short
  have hending : companion.ending.toUTF8.toList.length ≤ 8 := by
    cases companion <;> decide +kernel
  have hname : ¬ longestName < (name ++ companion.ending.toUTF8.toList).length := by
    rw [List.length_append]
    show ¬ 255 < _
    omega
  simp only [Disk.companion?, List.getLast?_singleton, Option.bind_some, if_neg hname,
    List.dropLast_singleton, List.nil_append]

/-- Beside the database nothing stands. -/
theorem Keeps.beside (h : base.Keeps [name] disk) :
    disk.contents? [name ++ Companion.journal.ending.toUTF8.toList] = none ∧
      disk.contents? [name ++ Companion.log.ending.toUTF8.toList] = none := by
  rw [h.others _ (companion_ne .journal), h.others _ (companion_ne .log)]
  exact ⟨hbase.journal, hbase.log⟩

end Root

end Disk

/-! ## Work with it -/

namespace DiskTask

variable {α β : Type} {x : DiskTask α} {f : α → DiskTask β} {disk disk' disk'' : Disk} {a : α}
  {b : β}

/-- Work on a disk gives a value and leaves another disk. -/
def Yields (x : DiskTask α) (disk : Disk) (a : α) (disk' : Disk) : Prop :=
  x.run.run disk = (.ok a, disk')

theorem Yields.bind (hx : Yields x disk a disk') (hf : Yields (f a) disk' b disk'') :
    Yields (x >>= f) disk b disk'' := by
  rw [Yields, ExceptT.run_bind, StateT.run_bind, hx]
  exact hf

/-- Work that does not fail is not seen by who would catch its failure. -/
theorem Yields.caught {handler : DatabaseFault → DiskTask α} (hx : Yields x disk a disk') :
    Yields (tryCatch x handler) disk a disk' := by
  rw [Yields, ExceptT.run_tryCatch, StateT.run_bind, hx]
  rfl

variable {base : Disk} {name : FileName} {db : Database} {companion : Companion}
  (hbase : base.HasDatabase name)

include hbase

theorem yields_companion?
    (hnone : disk.contents? [name ++ companion.ending.toUTF8.toList] = none) :
    Yields (DiskTask.companion? [name] companion) disk none disk := by
  have hmatter : disk.matter? [name ++ companion.ending.toUTF8.toList] = none := by
    rw [Disk.matter?, hnone]
  unfold DiskTask.companion?
  rw [Disk.companion?_root hbase]
  refine Yields.bind (a := disk) rfl ?_
  rw [hmatter]
  rfl

theorem yields_locationOf {opened : OpenFile} (hopened : opened.file.path = .ofNames [name]) :
    Yields (locationOf opened) disk [name] disk := by
  unfold locationOf
  refine Yields.bind (a := disk) rfl ?_
  rw [hopened, Disk.databaseLocation?_root hbase]
  rfl

theorem yields_closeDatabase {opened : OpenFile} (hopened : opened.file.path = .ofNames [name])
    (hchange : opened.change = .journaled) : Yields (closeDatabase opened) disk () disk := by
  unfold closeDatabase
  refine (yields_locationOf hbase hopened).bind ?_
  rw [hchange]
  rfl

variable (h : base.Keeps [name] disk)

include h

theorem yields_secure :
    Yields (secure { path := .ofNames [name] }) disk [name] disk := by
  obtain ⟨db, hdb⟩ := h.database
  have hpermissions : disk.givesPermissions { path := .ofNames [name] } = true := rfl
  unfold secure
  refine Yields.bind (a := disk) rfl ?_
  simp only [Disk.databaseLocation?_root hbase, hpermissions, hdb]
  rfl

theorem yields_settle :
    Yields (settle { path := .ofNames [name] } [name]) disk .journaled disk := by
  obtain ⟨hjournal, hlog⟩ := h.beside hbase
  have hsettled : Yields (settleJournal { path := .ofNames [name] } [name]) disk () disk := by
    unfold settleJournal
    refine (yields_companion? hbase hjournal).bind (Yields.bind (a := disk) rfl ?_)
    rfl
  have hmode : Yields (settleLog { path := .ofNames [name] } [name]) disk .journaled disk := by
    unfold settleLog
    refine (yields_companion? hbase hlog).bind (Yields.bind (a := disk) rfl ?_)
    rfl
  unfold settle
  exact hsettled.bind hmode

theorem yields_openDatabase (hdb : disk.contents? [name] = some (.database db)) :
    Yields (openDatabase { path := .ofNames [name] }) disk
      { file := { path := .ofNames [name] }, change := .journaled, database := db } disk := by
  have hread : Yields (DiskTask.read [name]) disk db disk := by
    unfold DiskTask.read
    refine Yields.bind (a := disk) rfl ?_
    rw [hdb]
    rfl
  unfold openDatabase
  refine (yields_secure hbase h).bind ((yields_settle hbase h).bind ?_)
  -- what is opened is returned from within, past what comes after a failure
  let opened : OpenFile :=
    { file := { path := .ofNames [name] }, change := .journaled, database := db }
  refine Yields.bind (a := (.error opened : Except OpenFile OpenFile)) (?_ : Yields _ disk _ disk)
    rfl
  exact Yields.caught (hread.bind rfl)

theorem yields_writeDatabase {opened : OpenFile} (hopened : opened.file.path = .ofNames [name])
    (hchange : opened.change = .journaled) (db : Database) :
    Yields (writeDatabase opened db) disk ()
      ((disk.remove [name ++ Companion.journal.ending.toUTF8.toList]).put [name]
        (.database db)) := by
  obtain ⟨db', hdb⟩ := h.database
  obtain ⟨hjournal, -⟩ := h.beside hbase
  have hwritable : Yields (checkWritable [name]) disk () disk := by
    unfold checkWritable
    refine Yields.bind (a := disk) rfl ?_
    rw [hdb]
    rfl
  have hleft : (disk.remove [name ++ Companion.journal.ending.toUTF8.toList]).contents? [name] =
      some (.database db') := by
    rw [Disk.contents?_remove_of_ne disk (Disk.companion_ne .journal).symm, hdb]
  have hkept : Yields (keep [name] db)
      (disk.remove [name ++ Companion.journal.ending.toUTF8.toList]) ()
      ((disk.remove [name ++ Companion.journal.ending.toUTF8.toList]).put [name]
        (.database db)) := by
    unfold keep
    refine Yields.bind (a := disk.remove _) rfl ?_
    rw [hleft]
    rfl
  unfold writeDatabase
  refine (yields_locationOf hbase hopened).bind (hwritable.bind ?_)
  rw [hchange]
  dsimp only
  rw [Disk.companion?_root hbase]
  refine Yields.bind (a := disk) rfl ?_
  rw [hjournal]
  exact Yields.bind (a := ()) rfl hkept

end DiskTask

namespace Disk

variable {disk base : Disk} {name : FileName} {path : String} (hbase : base.HasDatabase name)

include hbase

theorem keeps_self : base.Keeps [name] base :=
  ⟨rfl, fun _ _ => rfl, hbase.database⟩

/-- What is put into the database changes the disk nowhere else. -/
theorem Keeps.write (h : base.Keeps [name] disk) (db : Database) :
    base.Keeps [name]
      ((disk.remove [name ++ Companion.journal.ending.toUTF8.toList]).put [name]
        (.database db)) where
  working := h.working
  others place hplace := by
    rw [contents?_put_of_ne _ _ hplace]
    -- a journal that is taken away did not stand on the first disk either
    by_cases hjournal : place = [name ++ Companion.journal.ending.toUTF8.toList]
    · subst hjournal
      rw [contents?_remove disk (List.cons_ne_nil _ _), hbase.journal]
    · rw [contents?_remove_of_ne disk hjournal, h.others place hplace]
  database := ⟨db, contents?_put _ _ (List.cons_ne_nil _ _)⟩

/-- **A machine keeps the database that lies under the root of its disk.** -/
theorem serves (hpath : DatabaseAddress.ofText path = .ok (.file { path := .ofNames [name] }))
    (hparent : (Path.ofText path).parent? = some (.ofNames [])) (environment : Environment)
    (exchange : OracleSettings → Oracle) (now : Nat) :
    (base.keeper name).Serves (Disk.host environment exchange now) path base.fileText where
  address := hpath
  directories disk directory h hdirectory := by
    obtain rfl := Option.some.inj (hparent.symm.trans hdirectory)
    exact .pure h ⟨rfl, rfl⟩
  opens disk h := by
    obtain ⟨db, hdb⟩ := h.database
    have hheld : db = disk.databaseAt [name] := (databaseAt_of_contents? hdb).symm
    exact ⟨_, disk, DiskTask.yields_openDatabase hbase h hdb, h, rfl, _, rfl, ⟨rfl, rfl⟩, hheld⟩
  writes disk opened db h hopened := by
    refine ⟨_, _, DiskTask.yields_writeDatabase hbase h hopened.1 hopened.2 db,
      h.write hbase db, rfl, ?_⟩
    exact databaseAt_of_contents? (contents?_put _ _ (List.cons_ne_nil _ _))
  closes disk opened h hopened := by
    have hclosed : (base.keeper name).Leads (DiskTask.closeDatabase opened).run disk
        fun result db => result = .ok () ∧ db = disk.databaseAt [name] :=
      ⟨_, disk, DiskTask.yields_closeDatabase hbase hopened.1 hopened.2, h, rfl, rfl⟩
    exact hclosed.bind fun _ _ h' hheld => .pure h' hheld.2
  reads disk file h := ⟨_, disk, rfl, h, fileText_congr hbase.database h file, rfl⟩

end Disk

end StarFreight
