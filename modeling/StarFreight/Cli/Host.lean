import StarFreight.Cli.DatabaseAddress
import StarFreight.Config.Settings
/-!
# Cli — hosts

A host is a place where commands are carried out: it has an environment,
directories, files and databases, and it can put a question to an oracle. It is
a parameter of `Cli.Run`, so that the same program runs on a machine (`Main`)
and on a description of one (`Cli.Disk.Host`).
-/

namespace StarFreight

/-- Why a file or a directory is not to be had. -/
inductive FileFault where
  | missing
  /-- There is something at its path already. -/
  | taken
  /-- Its path leads through something that is no directory. -/
  | notDirectory
  /-- It is a directory, and a file is asked for. -/
  | directory
  /-- Its path, or a name on it, is too long. -/
  | nameTooLong
  | notText
deriving DecidableEq, Repr

/-- The message of a fault. -/
def FileFault.message : FileFault → String
  | .missing => "No such file or directory (os error 2)"
  | .taken => "File exists (os error 17)"
  | .notDirectory => "Not a directory (os error 20)"
  | .directory => "Is a directory (os error 21)"
  | .nameTooLong => "File name too long (os error 36)"
  | .notText => "stream did not contain valid UTF-8"

/-- How a database that is open is changed. -/
inductive ChangeMode where
  | forbidden
  /-- Under a journal, which is put beside it and taken away again. -/
  | journaled
  /-- By way of a log beside it, which is taken away in the end. -/
  | logged
deriving DecidableEq, Repr

/-- A database in a file that is open. -/
structure OpenFile where
  /-- The file, with a path that leads straight to it. -/
  file : DatabaseFile
  change : ChangeMode
  database : Database

/-- A place where commands are carried out. -/
structure Host (m : Type → Type) where
  environment : Environment
  /-- Whether there is anything at a path. -/
  present : Path → m Bool
  /-- Whether there is a directory at a path. -/
  isDirectory : Path → m Bool
  makeDirectory : Path → m (Except FileFault Unit)
  /-- The text of the file at a path. -/
  fileText : Path → m (Except FileFault String)
  /-- Opens a database, a new one where there is none and one may be made. -/
  openDatabase : DatabaseFile → m (Except DatabaseFault OpenFile)
  /-- Puts something else into a database that is open. -/
  writeDatabase : OpenFile → Database → m (Except DatabaseFault Unit)
  closeDatabase : OpenFile → m Unit
  now : m Nat
  /-- What becomes of questions to an oracle. -/
  exchange : OracleSettings → Oracle

namespace Host

variable {m : Type → Type} [Monad m] (host : Host m)

/-- Sees to it that there is a directory at a path, whether there was one or
not. -/
def ensureDirectory (path : Path) : m (Except FileFault Unit) := do
  match ← host.makeDirectory path with
  | .ok _ => return .ok ()
  | .error fault => if ← host.isDirectory path then return .ok () else return .error fault

/-- Sees to it that there are directories along a path, given by its steps
backwards. A directory is made in front of another only where that one cannot be
made for the lack of it; those that are made stay, also where a later one
fails. -/
def ensureAlong (rooted : Bool) : List PathStep → m (Except FileFault Unit)
  | [] => return .ok ()
  | step :: steps => do
    if step.stays then ensureAlong rooted steps
    else
      let path : Path := { rooted, steps := (step :: steps).reverse }
      match ← host.ensureDirectory path with
      | .error .missing =>
        match ← ensureAlong rooted steps with
        | .ok _ => host.ensureDirectory path
        | .error fault => return .error fault
      | result => return result

/-- Makes a directory and those on the way to it, where they are missing. -/
def makeDirectories (path : Path) : m (Except FileFault Unit) :=
  host.ensureAlong path.rooted path.steps.reverse

end Host

end StarFreight
