import StarFreight.Cli.DatabaseText
import StarFreight.Cli.Run
import StarFreight.Oracle.Http
/-!
# Main

The program on a machine: its environment, its files, its clock. No connection
is made to the outside, so no question to an oracle is delivered.
-/

namespace StarFreight

/-- The variables that the program looks at. -/
def variableNames : List String :=
  [ "HAULROUTE_DB", "HAULROUTE_CACHE_TTL_SECS", "HAULROUTE_MIN_NODES"
  , "HAULROUTE_CRITICAL_SYSTEMS", "HAULROUTE_ENV", "HAULROUTE_BACKFILL"
  , "HAULROUTE_ORACLE_URL", "HAULROUTE_ORACLE_TIMEOUT_SECS", "XDG_DATA_HOME", "HOME" ]

/-- What an error says about a file or directory. -/
def faultOfError : IO.Error → FileFault
  | .alreadyExists .. => .taken
  | .inappropriateType .. => .notDirectory
  | .invalidArgument _ 36 _ => .nameTooLong
  | .userError _ => .notText
  | _ => .missing

/-- Does something with the text of a path; a path that is no text leads
nowhere. -/
def atPath {α : Type} (path : Path) (act : String → IO α) : IO (Except FileFault α) := do
  match path.text? with
  | none => return .error .missing
  | some text =>
    try
      return .ok (← act text)
    catch e => return .error (faultOfError e)

/-- Whether there is anything at a path. -/
def isPresent (path : Path) : IO Bool := do
  return (← atPath path fun text => IO.FS.realPath text).toOption.isSome

/-- Whether there is a directory at a path. -/
def isDirectoryAt (path : Path) : IO Bool := do
  match ← atPath path fun text => do (← IO.FS.realPath text).isDir with
  | .ok answer => return answer
  | .error _ => return false

/-- Reads a file. -/
def readTextFile (path : Path) : IO (Except FileFault String) := do
  if ← isDirectoryAt path then return .error .directory
  else atPath path fun text => IO.FS.readFile text

/-- Opens a database, making an empty file where there is none and one may be
made. -/
def openFile (file : DatabaseFile) : IO (Except DatabaseFault OpenFile) := do
  let change : ChangeMode := if file.readOnly || file.immutable then .forbidden else .journaled
  if let some giver := file.permissionsOf then
    if !(← isPresent giver) then return .error .noPermissions
  match ← readTextFile file.path with
  | .ok text =>
    match Database.ofFileText? text with
    | some database => return .ok { file, change, database }
    | none => return .error .foreign
  | .error .missing =>
    if file.creates then
      match ← atPath file.path fun text => IO.FS.writeFile text "" with
      | .ok _ => return .ok { file, change, database := {} }
      | .error _ => return .error .unavailable
    else return .error .unavailable
  | .error .notText => return .error .foreign
  | .error .directory => return .error (if file.readOnly then .unreadable else .unavailable)
  | .error _ => return .error .unavailable

/-- Puts something else into a database that is open, if it may be changed. -/
def writeFile (opened : OpenFile) (db : Database) : IO (Except DatabaseFault Unit) := do
  if opened.change = .forbidden then return .error .readOnly
  else
    match ← atPath opened.file.path fun text => IO.FS.writeFile text db.fileText with
    | .ok _ => return .ok ()
    | .error _ => return .error .noCompanion

/-- The machine that the program runs on. -/
def machine : IO (Host IO) := do
  let values ← variableNames.mapM fun name => do return (name, ← IO.getEnv name)
  return {
    environment := fun name => (values.lookup name).join
    present := isPresent
    isDirectory := isDirectoryAt
    makeDirectory := fun path => atPath path fun text => IO.FS.createDir text
    fileText := readTextFile
    openDatabase := openFile
    writeDatabase := writeFile
    closeDatabase := fun _ => return ()
    now := do return (← IO.monoMsNow) / 1000
    exchange := fun oracle => Oracle.http oracle.url fun _ _ => .undelivered }

end StarFreight

/-- Carries out the command line. -/
def main (args : List String) : IO UInt32 := do
  let outcome ← StarFreight.runArguments (← StarFreight.machine) args
  IO.print outcome.output
  IO.eprint outcome.complaint
  return UInt32.ofNat outcome.exit
