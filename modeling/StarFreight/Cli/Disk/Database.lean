import StarFreight.Cli.Disk.Basic
import StarFreight.Cli.Disk.FirstPage
/-!
# Cli — databases on disks

A database is opened at the location that its path comes to when steps are
reckoned without being taken (`Disk.reckon?`). Beside it stand its companions,
under names that are longer by an ending: the journal of a change, a log of
changes with its index, a lock. What of them a disrupted program has left is
tidied up before a database is read (`DiskTask.settle`), and whoever may not do
that cannot use the database.
-/

namespace StarFreight

/-- A file or directory that may stand beside a database. -/
inductive Companion where
  /-- What undoes a change that is not finished. -/
  | journal
  /-- Changes that are to be carried over. -/
  | log
  | index
  /-- The sign that somebody uses the database. -/
  | lock
deriving DecidableEq, Repr

/-- What the name of a companion has more than that of the database. -/
def Companion.ending : Companion → String
  | .journal => "-journal"
  | .log => "-wal"
  | .index => "-shm"
  | .lock => ".lock"

namespace Disk

/-- The length of the path that is made of the names on the way to a location. -/
def reckonedLength (location : Location) : Nat :=
  location.foldr (fun name n => name.length + 1 + n) 0

/-- The greatest length to which a reckoned path may grow. -/
def longestReckoned : Nat := 511

/-- The greatest length of the reckoned path of a database, with room for the
longest ending of a companion. -/
def longestDatabasePath : Nat := 504

/-- The location to which a path is reckoned to lead, without a look at whether
its directories exist; none where it leads through a file, nor where it is too
long, nor where a name is too long for a directory that exists. -/
def reckon? (disk : Disk) (path : Path) : Option Location :=
  path.steps.foldlM
    (fun location step =>
      match step with
      | .nothing => some location
      | .here => some location
      | .up => some location.dropLast
      | .name s =>
        match disk.contents? location with
        | none => extend location s
        | some .directory => if longestName < s.length then none else extend location s
        | some _ => none)
    (disk.start path)
where
  /-- A location with one name more. -/
  extend (location : Location) (s : FileName) : Option Location :=
    if longestReckoned < reckonedLength (location ++ [s]) then none
    else some (location ++ [s])

/-- The location of a database with a path; the root is none. -/
def databaseLocation? (disk : Disk) (path : Path) : Option Location :=
  (disk.reckon? path).filter fun location =>
    !location.isEmpty && reckonedLength location ≤ longestDatabasePath

/-- The location of a companion, unless its name is too long. -/
def companion? (location : Location) (companion : Companion) : Option Location :=
  location.getLast?.bind fun name =>
    let name := name ++ companion.ending.toUTF8.toList
    if longestName < name.length then none else some (location.dropLast ++ [name])

/-- What stands at a location, unless that is an empty file. -/
def matter? (disk : Disk) (location : Location) : Option DiskEntry :=
  match disk.contents? location with
  | some (.text s) => if s.isEmpty then none else some (.text s)
  | entry => entry

/-- Whether a file is a database without pages: an empty one is, and so is one
of a single byte. -/
def isVacant : DiskEntry → Bool
  | .text s => s.utf8ByteSize ≤ 1
  | .sink => true
  | _ => false

/-- Whether a database without pages stands at a location. -/
def holdsNothing (disk : Disk) (location : Location) : Bool :=
  (disk.contents? location).all isVacant

/-- Whether there is something that gives a new file its permissions, where
that is asked for. -/
def givesPermissions (disk : Disk) (file : DatabaseFile) : Bool :=
  file.permissionsOf.all fun path => (disk.find path).toOption.isSome

/-- The disk with a database at the end of a path. -/
def putDatabase (disk : Disk) (path : Path) (db : Database) : Disk :=
  match disk.databaseLocation? path with
  | none => disk
  | some location => disk.put location (.database db)

end Disk

/-- Work with a database on a disk. What is done before it fails stays done. -/
abbrev DiskTask := ExceptT DatabaseFault (StateM Disk)

namespace DiskTask

/-- Looks for a companion with something in it, and where it stands. -/
def companion? (location : Location) (companion : Companion) :
    DiskTask (Option (Location × DiskEntry)) := do
  match Disk.companion? location companion with
  | none => return none
  | some beside => return ((← get).matter? beside).map (beside, ·)

/-- Removes what stands at a location. -/
def remove (location : Location) : DiskTask Unit :=
  modify (·.remove location)

/-- Sees to it that nobody else uses a database that is locked by a file. -/
def checkLock (location : Location) : DiskTask Unit :=
  match Disk.companion? location .lock with
  | none => throw .noLock
  | some lock => do
    if ((← get).contents? lock).isSome then throw .locked

/-- Whether a journal holds a change that was not finished. -/
def isHot : DiskEntry → Bool
  | .text s => s.toList.head? != some (Char.ofNat 0)
  | _ => true

/-- Undoes a change that was not finished: no journal that is left holds one of
this database, so that it only has to go. Beside an empty database there is
nothing to undo. -/
def settleJournal (file : DatabaseFile) (location : Location) : DiskTask Unit := do
  match ← companion? location .journal, (← get).holdsNothing location with
  | none, _ => return
  | some (_, .directory), true => return
  | some (_, .directory), false => throw .unreadable
  | some (journal, _), true =>
    if !file.readOnly || file.locking = .none then remove journal
  | some (journal, entry), false =>
    if isHot entry then
      if file.readOnly then throw .unfinished else remove journal

/-- Whether a log is long enough to start with a header and has one in which the
salt, by which changes are told from those of an earlier log, is not 0. -/
def hasSalt : DiskEntry → Bool
  | .text s =>
    let bytes := s.toUTF8.toList
    32 ≤ bytes.length && ((bytes.drop 16).take 8).any (· ≠ 0)
  | .sink => false
  | _ => true

/-- Takes up a log that was left: no log that is left holds changes of this
database. Beside an empty database it has to go, and otherwise it is used until
the database is closed. How the database is changed. -/
def settleLog (file : DatabaseFile) (location : Location) : DiskTask ChangeMode := do
  let usual : ChangeMode := if file.readOnly then .forbidden else .journaled
  match ← companion? location .log, (← get).holdsNothing location with
  | none, _ => return usual
  | some (_, .directory), true => throw .staleCompanion
  | some (log, _), true =>
    remove log
    return usual
  | some (_, .directory), false => throw .noCompanion
  | some (_, log), false =>
    match file.locking with
    | .none => throw .noCompanion
    | .byFile => throw .noCompanion
    | .exclusive => if file.readOnly then takeIndex log else return .logged
    | .shared => takeIndex log
where
  /-- Reads a log without changing its index, so that nothing can be changed. -/
  readLog (log : DiskEntry) : DiskTask ChangeMode :=
    if hasSalt log then throw .unsettled else return .forbidden
  /-- Makes the index of a log, or reads the log without one where the index is only
  read or there is a directory in its place. -/
  takeIndex (log : DiskEntry) : DiskTask ChangeMode := do
    match Disk.companion? location .index with
    | none => throw .noCompanion
    | some index =>
      match (← get).contents? index, file.indexReadOnly with
      | some .directory, _ => readLog log
      | some _, true => readLog log
      | none, true => throw .noCompanion
      | _, false =>
        modify (·.put index .binary)
        return if file.readOnly then .forbidden else .logged

/-- Readies a database for use, and says how it is changed. -/
def settle (file : DatabaseFile) (location : Location) : DiskTask ChangeMode := do
  if file.immutable then return .forbidden
  if file.locking = .byFile then checkLock location else settleJournal file location
  settleLog file location

/-- The location of a database, with an empty file made there where there is
none. Where its permissions should come from is looked at in any case. A
directory can be opened to be read, but not read. -/
def secure (file : DatabaseFile) : DiskTask Location := do
  let disk ← get
  match disk.databaseLocation? file.path with
  | none => throw .unavailable
  | some location =>
    if !disk.givesPermissions file then throw .noPermissions
    match disk.contents? location, disk.demandDirectory location.dropLast with
    | some .directory, _ => throw (if file.readOnly then .unreadable else .unavailable)
    | some _, _ => return location
    | none, .ok _ =>
      if file.creates then
        set (disk.put location (.text ""))
        return location
      else throw .unavailable
    | none, .error _ => throw .unavailable

/-- Takes away the log of a database, and its index where it has one. -/
def close (file : DatabaseFile) (location : Location) (change : ChangeMode) :
    DiskTask Unit := do
  if change = .logged then
    if let some log := Disk.companion? location .log then remove log
    if file.locking = .shared then
      if let some index := Disk.companion? location .index then remove index

/-- The first page of a file that is known by its bytes. -/
def firstPage : DiskEntry → DiskTask FirstPage
  | .text s =>
    match FirstPage.ofBytes s.toUTF8.toList with
    | .ok page => return page
    | .error fault => throw fault
  | _ => throw .foreign

/-- What a database holds; one that is known by its bytes has no tables. -/
def read (location : Location) : DiskTask Database := do
  match (← get).contents? location with
  | none => throw .unavailable
  | some .directory => throw .unreadable
  | some (.database db) => return db
  | some entry =>
    if !Disk.isVacant entry then discard (firstPage entry)
    return {}

/-- Opens a database. -/
def openDatabase (file : DatabaseFile) : DiskTask OpenFile := do
  let location ← secure file
  let change ← settle file location
  try
    let database ← read location
    return { file := { file with path := .ofNames location }, change, database }
  catch fault =>
    close file location change
    throw fault

/-- The location of a database that is open. -/
def locationOf (opened : OpenFile) : DiskTask Location := do
  match (← get).databaseLocation? opened.file.path with
  | none => throw .unavailable
  | some location => return location

/-- Sees to it that a database whose first page forbids it is not changed. -/
def checkWritable (location : Location) : DiskTask Unit := do
  match (← get).contents? location with
  | some (.text s) =>
    if !Disk.isVacant (.text s) then
      let page ← firstPage (.text s)
      if !page.writable then throw .readOnly
  | _ => return

/-- Puts a database at a location, where it has to be kept. -/
def keep (location : Location) (db : Database) : DiskTask Unit := do
  match (← get).contents? location with
  | some .sink => throw .unkept
  | some (.text s) =>
    if !Disk.isVacant (.text s) then
      let page ← firstPage (.text s)
      if !page.extensible then throw .malformed
    modify (·.put location (.database db))
  | _ => modify (·.put location (.database db))

/-- Puts something else into a database that is open. -/
def writeDatabase (opened : OpenFile) (db : Database) : DiskTask Unit := do
  let location ← locationOf opened
  checkWritable location
  match opened.change with
  | .forbidden => throw .readOnly
  | .logged =>
    if let some log := Disk.companion? location .log then modify (·.put log .binary)
    keep location db
  | .journaled =>
    match Disk.companion? location .journal with
    | none => throw .noCompanion
    | some journal =>
      match (← get).contents? journal with
      | some .directory => throw .noCompanion
      | _ =>
        remove journal
        keep location db

/-- Closes a database that is open. -/
def closeDatabase (opened : OpenFile) : DiskTask Unit := do
  close opened.file (← locationOf opened) opened.change

end DiskTask

end StarFreight
