import StarFreight.Cli.Path
import StarFreight.Decimal.Digit
import StarFreight.Store.Error
import StarFreight.Text.Lenient
import StarFreight.Text.Percent
import StarFreight.Text.Pieces
/-!
# Cli — addresses of databases

What a text means where a database is to be opened. Most texts are the path of a
file. The empty text and `:memory:` stand for a database that is kept nowhere.
A text that starts with `file:` is an address in pieces: an authority, a path
and options, in which a percent sign and two hexadecimal digits stand for a byte
and nothing after a number sign counts.
-/

namespace StarFreight

open Decimal

/-- What may be done with a database. -/
inductive OpenMode where
  | readOnly
  | readWrite
  /-- It may be read and written, and made where there is none. -/
  | create
  /-- It is made anew and kept nowhere. -/
  | memory
deriving DecidableEq, Repr

/-- The mode with a name. -/
def OpenMode.ofName? : String → Option OpenMode
  | "ro" => some .readOnly
  | "rw" => some .readWrite
  | "rwc" => some .create
  | "memory" => some .memory
  | _ => none

/-- Whether a mode may follow another: of one file no more may be done than was
said before. -/
def OpenMode.allows : OpenMode → OpenMode → Bool
  | .readOnly, .readWrite => false
  | .readOnly, .create => false
  | .readWrite, .create => false
  | _, _ => true

/-- How those who use one database at a time keep out of each other's way. -/
inductive Locking where
  /-- By locks on the file and a memory that they share. -/
  | shared
  /-- By locks on the file, with nothing to share. -/
  | exclusive
  /-- By a file beside it. -/
  | byFile
  | none
deriving DecidableEq, Repr

/-- The way of locking that goes by a name. -/
def Locking.ofName? : String → Option Locking
  | "unix" => some .shared
  | "unix-excl" => some .exclusive
  | "unix-dotfile" => some .byFile
  | "unix-none" => some .none
  | _ => Option.none

/-- A database in a file, as it is to be opened. -/
structure DatabaseFile where
  path : Path
  readOnly : Bool := false
  /-- Whether it is made where there is none. -/
  creates : Bool := true
  /-- Whether it is taken for one that nobody changes, so that nothing beside it
  is looked at. -/
  immutable : Bool := false
  locking : Locking := .shared
  /-- Whether the index of a log that was left is only read. -/
  indexReadOnly : Bool := false
  /-- Where the permissions of a file that is made come from. -/
  permissionsOf : Option Path := none
deriving DecidableEq, Repr

/-- What an address means. -/
inductive DatabaseAddress where
  /-- A database that is kept nowhere. -/
  | memory (writable : Bool)
  /-- A database that is kept nowhere, under a name that is too long for one. -/
  | beyondReach
  | file (file : DatabaseFile)
deriving DecidableEq, Repr

namespace DatabaseAddress

/-- The bytes that characters stand for, up to a byte 0. -/
def decode (cs : List Char) : List UInt8 :=
  (Text.Percent.decode cs).takeWhile (· ≠ 0)

/-- The options of an address, each a name and the bytes of its value, those
without a name left out. -/
def options (query : List Char) : List (String × List UInt8) :=
  let read := fun piece : List Char =>
    ( Text.lenient (decode (piece.takeWhile (· ≠ '=')))
    , decode ((piece.dropWhile (· ≠ '=')).drop 1) )
  ((Text.splitAt '&' query).map read).filter fun (name, _) => !name.isEmpty

/-- The number at the front of a text, 0 where it needs more than 31 bits. -/
def leadingNumber (text : String) : Nat :=
  let read := fun (base : Nat) (ds : List Nat) =>
    let n := ds.foldl (fun n d => base * n + d) 0
    if n < twoTo 31 then n else 0
  let decimal := fun cs : List Char =>
    read 10 ((cs.takeWhile Char.isDigit).filterMap fun c => (Digit.ofChar? c).map (·.val))
  let hexadecimal := fun cs : List Char =>
    read 16 ((cs.takeWhile fun c => (Text.hexValue? c).isSome).filterMap Text.hexValue?)
  match text.toList with
  | '0' :: x :: d :: cs =>
    if (x = 'x' ∨ x = 'X') ∧ (Text.hexValue? d).isSome then hexadecimal (d :: cs)
    else decimal ('0' :: x :: d :: cs)
  | cs => decimal cs

/-- Whether the value of an option says yes: with a word, or with a number of
which one byte is kept. -/
def saysYes (value : String) : Bool :=
  if (value.toList.head?.map Char.isDigit).getD false then leadingNumber value % 256 ≠ 0
  else ["on", "yes", "true"].contains (value.map Char.toLower)

/-- Whether an option is given and the first value given for it says yes. -/
def isOn (options : List (String × List UInt8)) (name : String) : Bool :=
  ((options.lookup name).map fun value => saysYes (Text.lenient value)).getD false

/-- The mode under one more option. -/
def withOption (mode : OpenMode) : String × String → Except AddressFault OpenMode
  | ("mode", value) =>
    match OpenMode.ofName? value with
    | none => .error (.unknownMode "access" value)
    | some next => if mode.allows next then .ok next else .error (.modeNotAllowed value)
  | ("cache", value) =>
    if value = "shared" ∨ value = "private" then .ok mode
    else .error (.unknownMode "cache" value)
  | _ => .ok mode

/-- The file system in which databases are kept nowhere. -/
def memorySystem : String := "memdb"

/-- The longest name of a database in that file system, in bytes. -/
def longestMemoryName : Nat := 1016

/-- The way of locking that the last of the options for it names, and whether
files are kept nowhere then. -/
def fileSystem (options : List (String × List UInt8)) :
    Except AddressFault (Locking × Bool) :=
  match (options.reverse.lookup "vfs").map Text.lenient with
  | none => .ok (.shared, false)
  | some name =>
    if name = memorySystem then .ok (.none, true)
    else
      match Locking.ofName? name with
      | some locking => .ok (locking, false)
      | none => .error (.unknownFileSystem name)

/-- The bytes of a text. -/
def bytesOf (text : String) : List UInt8 :=
  text.toUTF8.toList

/-- What a path and options mean. -/
def ofPath (path : List UInt8) (options : List (String × List UInt8)) :
    Except AddressFault DatabaseAddress := do
  let texts := options.map fun (name, value) => (name, Text.lenient value)
  let mode ← texts.foldlM withOption .create
  let (locking, inMemory) ← fileSystem options
  let readOnly := mode = .readOnly
  let immutable := isOn options "immutable"
  if mode = .memory ∨ path = bytesOf "" ∨ path = bytesOf ":memory:" then
    return .memory !readOnly
  else if inMemory then
    if longestMemoryName < path.length then return .beyondReach
    else return .memory (!readOnly && !immutable)
  else
    return .file
      { path := .ofBytes path, readOnly, creates := mode = .create, immutable
        locking := if isOn options "nolock" then .none else locking
        indexReadOnly := isOn options "readonly_shm"
        permissionsOf := (options.lookup "modeof").map Path.ofBytes }

/-- What an address in pieces means, given what follows an authority. -/
def ofPieces (cs : List Char) : Except AddressFault DatabaseAddress :=
  let cs := cs.takeWhile (· ≠ '#')
  ofPath (decode (cs.takeWhile (· ≠ '?'))) (options ((cs.dropWhile (· ≠ '?')).drop 1))

/-- What a text means where a database is to be opened. -/
def ofText (text : String) : Except AddressFault DatabaseAddress :=
  match text.toList with
  | 'f' :: 'i' :: 'l' :: 'e' :: ':' :: '/' :: '/' :: cs =>
    let authority := String.ofList (cs.takeWhile (· ≠ '/'))
    if authority = "" ∨ authority = "localhost" then ofPieces (cs.dropWhile (· ≠ '/'))
    else .error (.unknownAuthority authority)
  | 'f' :: 'i' :: 'l' :: 'e' :: ':' :: cs => ofPieces cs
  | _ => ofPath (bytesOf text) []

end DatabaseAddress

end StarFreight
