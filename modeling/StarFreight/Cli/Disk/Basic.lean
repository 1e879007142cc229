import StarFreight.Cli.Host
/-!
# Cli — disks

A disk as a list of what stands at its locations. A location is the names on the
way from the root; a path is walked to it step by step, and each step is taken in
a directory (`Disk.walk`). Names and paths have a greatest length.
-/

namespace StarFreight

/-- A place on a disk: the names on the way from the root. -/
abbrev Location := List FileName

/-- What stands at a location. -/
inductive DiskEntry where
  | directory
  | text (s : String)
  | database (db : Database)
  /-- A file with bytes that are neither. -/
  | binary
  /-- A file that takes everything and keeps nothing. -/
  | sink

/-- A disk. -/
structure Disk where
  /-- What stands where, the latest first. -/
  entries : List (Location × DiskEntry)
  /-- The directory in which a program runs. -/
  working : Location

namespace Disk

/-- What stands at a location; the root is a directory. -/
def contents? (disk : Disk) (location : Location) : Option DiskEntry :=
  if location.isEmpty then some .directory else disk.entries.lookup location

/-- The disk with something at a location. -/
def put (disk : Disk) (location : Location) (entry : DiskEntry) : Disk :=
  { disk with entries := (location, entry) :: disk.entries }

/-- The disk with nothing at a location. -/
def remove (disk : Disk) (location : Location) : Disk :=
  { disk with entries := disk.entries.filter fun e => !(location == e.1) }

/-- What was put at a location stands there. -/
theorem contents?_put (disk : Disk) {location : Location} (entry : DiskEntry)
    (h : location ≠ []) : (disk.put location entry).contents? location = some entry := by
  simp [contents?, put, h]

/-- Where something was removed, nothing stands. -/
theorem contents?_remove (disk : Disk) {location : Location} (h : location ≠ []) :
    (disk.remove location).contents? location = none := by
  have hlist : ∀ entries : List (Location × DiskEntry),
      (entries.filter fun e => !(location == e.1)).lookup location = none := by
    intro entries
    induction entries with
    | nil => rfl
    | cons e entries ih =>
      obtain ⟨place, entry⟩ := e
      by_cases he : location == place
      · simp [he, ih]
      · simp [List.lookup_cons, he, ih]
  simp [contents?, remove, h, hlist]

/-- The longest name that a directory takes, in bytes. -/
def longestName : Nat := 255

/-- The longest path that is walked, in bytes. -/
def longestPath : Nat := 4095

/-- Fails where there is no directory. -/
def demandDirectory (disk : Disk) (location : Location) : Except FileFault Unit :=
  match disk.contents? location with
  | none => .error .missing
  | some .directory => .ok ()
  | some _ => .error .notDirectory

/-- The location to which steps lead from another. -/
def walk (disk : Disk) : Location → List PathStep → Except FileFault Location
  | location, [] => .ok location
  | location, step :: steps =>
    match disk.demandDirectory location, step with
    | .error fault, _ => .error fault
    | .ok _, .nothing => disk.walk location steps
    | .ok _, .here => disk.walk location steps
    | .ok _, .up => disk.walk location.dropLast steps
    | .ok _, .name s =>
      if longestName < s.length then .error .nameTooLong
      else disk.walk (location ++ [s]) steps

/-- The location from which a path starts. -/
def start (disk : Disk) (path : Path) : Location :=
  if path.rooted then [] else disk.working

/-- The location to which a path leads. -/
def locate (disk : Disk) (path : Path) : Except FileFault Location :=
  if path.isEmpty then .error .missing
  else if longestPath < path.bytes.length then .error .nameTooLong
  else disk.walk (disk.start path) path.steps

/-- What stands at the end of a path. -/
def find (disk : Disk) (path : Path) : Except FileFault DiskEntry :=
  match disk.locate path with
  | .error fault => .error fault
  | .ok location =>
    match disk.contents? location with
    | none => .error .missing
    | some entry => .ok entry

/-- Whether a directory stands at the end of a path. -/
def isDirectory (disk : Disk) (path : Path) : Bool :=
  match disk.find path with
  | .ok .directory => true
  | _ => false

/-- The disk with a new directory at the end of a path. -/
def makeDirectory (disk : Disk) (path : Path) : Except FileFault Disk :=
  if longestPath < path.bytes.length then .error .nameTooLong
  else
    match disk.walk (disk.start path) path.steps.dropLast with
    | .error fault => .error fault
    | .ok location =>
      match disk.demandDirectory location, path.steps.getLast? with
      | .error fault, _ => .error fault
      | .ok _, some (.name s) =>
        if longestName < s.length then .error .nameTooLong
        else if (disk.contents? (location ++ [s])).isSome then .error .taken
        else .ok (disk.put (location ++ [s]) .directory)
      | .ok _, _ => .error .taken

/-- The text of the file at a path; a database is no text. -/
def fileText (disk : Disk) (path : Path) : Except FileFault String :=
  match disk.find path with
  | .error fault => .error fault
  | .ok .directory => .error .directory
  | .ok (.text s) => .ok s
  | .ok .sink => .ok ""
  | .ok _ => .error .notText

end Disk

end StarFreight
