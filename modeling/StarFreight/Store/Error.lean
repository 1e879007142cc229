import StarFreight.Table.Database
/-!
# Store — errors

What can go wrong underneath the planner when it reads or writes its tables.
-/

namespace StarFreight

/-- Why an address of a database means nothing. -/
inductive AddressFault where
  /-- It names a place other than this one. -/
  | unknownAuthority (name : String)
  /-- It asks for a mode, of access or of caching, that does not exist. -/
  | unknownMode (kind value : String)
  /-- It asks for a mode of access that permits more than an earlier one. -/
  | modeNotAllowed (value : String)
  /-- It names a way to reach files that does not exist. -/
  | unknownFileSystem (name : String)
deriving DecidableEq, Repr

/-- Why a database in a file cannot be used. -/
inductive DatabaseFault where
  /-- There is no file at its path that can be opened, nor one to be made. -/
  | unavailable
  /-- The file is no database. -/
  | foreign
  /-- The file is a damaged database. -/
  | malformed
  /-- The file is a database of a later form. -/
  | unknownFormat
  /-- There is nothing where the permissions of a new file should come from. -/
  | noPermissions
  /-- The file, or one beside it, can be opened but not read. -/
  | unreadable
  /-- A file that is needed beside it cannot be opened or made. -/
  | noCompanion
  /-- What is beside it should go and cannot be removed. -/
  | staleCompanion
  /-- A change to it was not finished, and it may not be undone. -/
  | unfinished
  /-- Somebody else uses it. -/
  | locked
  /-- A log beside it that was left cannot be told from one that changes. -/
  | unsettled
  /-- There is no way to see whether somebody else uses it. -/
  | noLock
  /-- What is put into it is not kept. -/
  | unkept
  | readOnly
deriving DecidableEq, Repr

/-- A failure of the tables. -/
inductive StoreError where
  /-- There is no database at a path. -/
  | databaseMissing (path : String)
  | address (fault : AddressFault)
  /-- The database with an address cannot be opened. -/
  | cannotOpen (given : String)
  /-- The database that is open cannot be used. -/
  | file (fault : DatabaseFault)
  /-- A table that the graph needs does not exist. -/
  | graphTableMissing (table : String)
  /-- A table that the graph needs lacks some of these columns. -/
  | graphColumnsMissing (columns : List String) (table : String)
  /-- A stored setting does not have the form it should. -/
  | invalidSetting (key : String)
  /-- A table that is read or written does not exist. -/
  | noSuchTable (table : String)
  /-- A column that is read does not exist. -/
  | noSuchColumn (column : String)
  /-- A cell holds another kind of value than is asked for. -/
  | cellKind (kind : String) (position : Nat) (column : String)
  /-- A row does not fit its table. -/
  | row (table : String) (fault : RowFault)
  /-- There is no place where databases are kept. -/
  | noDataDirectory
deriving DecidableEq, Repr

/-- The message of a row that does not fit. -/
def RowFault.message (table : String) : RowFault → String
  | .missingValue column => "NOT NULL constraint failed: " ++ table ++ "." ++ column
  | .keyKind => "datatype mismatch"
  | .width expected actual =>
    "table " ++ table ++ " has " ++ toString expected ++ " columns but " ++ toString actual
      ++ " values were supplied"
  | .unknownColumn column => "table " ++ table ++ " has no column named " ++ column
  | .keyTaken columns =>
    "UNIQUE constraint failed: " ++ String.intercalate ", " (columns.map (table ++ "." ++ ·))
  | .noKey => "ON CONFLICT clause does not match any PRIMARY KEY or UNIQUE constraint"
  | .numbersExhausted => "database or disk is full"

/-- The message of an address that means nothing. -/
def AddressFault.message : AddressFault → String
  | .unknownAuthority name => "invalid uri authority: " ++ name
  | .unknownMode kind value => "no such " ++ kind ++ " mode: " ++ value
  | .modeNotAllowed value => "access mode not allowed: " ++ value
  | .unknownFileSystem name => "no such vfs: " ++ name

/-- The message of a database that cannot be used. -/
def DatabaseFault.message : DatabaseFault → String
  | .unavailable => "unable to open database file"
  | .foreign => "file is not a database"
  | .malformed => "database disk image is malformed"
  | .unknownFormat => "unsupported file format"
  | .noPermissions => "disk I/O error"
  | .unreadable => "disk I/O error"
  | .noCompanion => "unable to open database file"
  | .staleCompanion => "disk I/O error"
  | .unfinished => "attempt to write a readonly database"
  | .locked => "database is locked"
  | .unsettled => "locking protocol"
  | .noLock => "disk I/O error"
  | .unkept => "disk I/O error"
  | .readOnly => "attempt to write a readonly database"

/-- What lies behind a database that cannot be used. -/
def DatabaseFault.cause : DatabaseFault → String
  | .unavailable => "Error code 14: Unable to open the database file"
  | .foreign => "Error code 26: File opened that is not a database file"
  | .malformed => "Error code 11: The database disk image is malformed"
  | .unknownFormat => "Error code 1: SQL error or missing database"
  | .noPermissions => "Error code 1802: Error invoking fstat to get file metadata"
  | .unreadable => "Error code 266: Error reading from disk"
  | .noCompanion => "Error code 14: Unable to open the database file"
  | .staleCompanion => "Error code 2570: I/O error within xDelete of a VFS object"
  | .unfinished => "Error code 776: Hot journal needs to be rolled back"
  | .locked => "Error code 5: The database file is locked"
  | .unsettled => "Error code 15: Database lock protocol error"
  | .noLock => "Error code 3850: I/O error in the advisory file locking logic"
  | .unkept => "Error code 1034: Error flushing data to persistent storage (fsync)"
  | .readOnly => "Error code 8: Attempt to write a readonly database"

/-- What lies behind an address that means nothing. -/
def AddressFault.cause : AddressFault → String
  | .modeNotAllowed _ => "Error code 3: Access permission denied"
  | _ => "Error code 1: SQL error or missing database"

/-- The message of a failure. -/
def StoreError.message : StoreError → String
  | .databaseMissing path => "database not found at " ++ path
  | .address fault => fault.message
  | .cannotOpen given => DatabaseFault.unavailable.message ++ ": " ++ given
  | .file fault => fault.message
  | .graphTableMissing table => "unsupported schema: missing table " ++ table
  | .graphColumnsMissing columns table =>
    "unsupported schema: missing columns " ++ String.intercalate ", " columns ++ " on " ++ table
  | .invalidSetting key => "invalid setting " ++ key
  | .noSuchTable table => "no such table: " ++ table
  | .noSuchColumn column => "no such column: " ++ column
  | .cellKind kind position column =>
    "Invalid column type " ++ kind ++ " at index: " ++ toString position ++ ", name: " ++ column
  | .row table fault => fault.message table
  | .noDataDirectory => "failed to resolve project directories for the default database path"

/-- What lies behind a failure, where there is more to say than its message. -/
def StoreError.cause? : StoreError → Option String
  | .address fault => some fault.cause
  | .cannotOpen _ => some DatabaseFault.unavailable.cause
  | .file fault => some fault.cause
  | _ => none

/-- The failure to open the database that a text stands for. -/
def StoreError.ofOpening (given : String) : DatabaseFault → StoreError
  | .unavailable => .cannotOpen given
  | fault => .file fault

/-- The message of a failure and what lies behind it. -/
def StoreError.account (e : StoreError) : String :=
  match e.cause? with
  | some cause => e.message ++ ": " ++ cause
  | none => e.message

end StarFreight
