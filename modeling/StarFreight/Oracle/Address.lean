import StarFreight.Decimal.Reading
import StarFreight.Oracle.ServiceHost
/-!
# Oracle — addresses of services

An address names a scheme and what the scheme makes of the rest: for most schemes
that are used for services a host, perhaps a port, and a path. `ServiceAddress.of`
says of a text whether it is an address at all, whether requests can be sent to
it, and how it is written then: scheme and host in small letters, a port only
where it is not the usual one, a path without detours.
-/

namespace StarFreight

open Decimal Text

/-- What a text is as the address of a service. -/
inductive ServiceAddress where
  | unreadable
  /-- It is an address without a host. -/
  | hostless (text : String)
  /-- It is an address with a host, but of another scheme than requests are sent
  by. -/
  | foreign (text : String)
  /-- It is an address that requests are sent to. -/
  | reachable (text : String)
deriving DecidableEq, Repr

namespace ServiceAddress

/-- The schemes whose addresses have a host, and the usual port of each. -/
def hostSchemes : List (String × Nat) :=
  [("http", 80), ("https", 443), ("ws", 80), ("wss", 443), ("ftp", 21)]

/-- The schemes that requests are sent by. -/
def requestSchemes : List String := ["http", "https"]

/-- Whether a character may stand in a scheme behind the first. -/
def isSchemeChar (c : Char) : Bool :=
  c.isAlphanum || c = '+' || c = '-' || c = '.'

/-- The scheme of an address in small letters, and what follows its colon. -/
def scheme? (cs : List Char) : Option (String × List Char) :=
  match cs.takeWhile isSchemeChar, cs.dropWhile isSchemeChar with
  | c :: name, ':' :: rest =>
    if c.isAlpha then some (String.ofList ((c :: name).map Char.toLower), rest) else none
  | _, _ => none

/-- The host at the front of characters, up to a colon that is not in square
brackets, and what follows. -/
def splitHost (bracketed : Bool) : List Char → List Char × List Char
  | [] => ([], [])
  | c :: cs =>
    if c = ':' && !bracketed then ([], c :: cs)
    else
      let bracketed := if c = '[' then true else if c = ']' then false else bracketed
      let (host, rest) := splitHost bracketed cs
      (c :: host, rest)

/-- A host as it is written and its port, with a colon in front, unless it is the
usual one. -/
def authorityText? (usual : Nat) (authority : List Char) : Option String := do
  let (host, port) := splitHost false (authority.reverse.takeWhile (· ≠ '@')).reverse
  let name := (← ServiceHost.ofChars? host).text
  match port with
  | [] => return name
  | [_] => return name
  | _ :: digits =>
    let port ← readDigits? digits
    if 65535 < port then none
    return if port = usual then name else name ++ ":" ++ toString port

/-- The characters of a part of an address, those that may not stand there as
bytes with a percent sign. -/
def escaped (marks : List Char) (cs : List Char) : List Char :=
  cs.flatMap fun c =>
    if c.toNat ≤ 32 || 127 ≤ c.toNat || marks.contains c then
      (Percent.bytesOf c).flatMap Percent.encodeByte
    else [c]

/-- A grave accent. -/
def graveAccent : Char := Char.ofNat 96

/-- The marks that do not stand in a path. -/
def pathMarks : List Char :=
  ['"', '<', '>', '{', '}', graveAccent]

/-- The marks that do not stand in a query. -/
def queryMarks : List Char :=
  ['"', '<', '>', '\'']

/-- The marks that do not stand in a fragment. -/
def fragmentMarks : List Char :=
  ['"', '<', '>', graveAccent]

/-- The dots in a piece of a path that consists of dots, each as it is or as a byte
with a percent sign. -/
def dots? : List Char → Option Nat
  | [] => some 0
  | '.' :: cs => (dots? cs).map (· + 1)
  | '%' :: '2' :: e :: cs => if e.toLower = 'e' then (dots? cs).map (· + 1) else none
  | _ => none

/-- Whether a piece of a path names a drive; a path does not lead out of one. -/
def isDrive : List Char → Bool
  | [letter, mark] => letter.isAlpha && (mark = ':' || mark = '|')
  | _ => false

/-- The pieces on the way, read backwards, without the last one. -/
def leave : List (List Char) → List (List Char)
  | [] => []
  | piece :: way => if isDrive piece then piece :: way else way

/-- The pieces of a path behind those on the way to it, which are read backwards:
a piece of one dot leads nowhere, and one of two dots back. -/
def straightened (way : List (List Char)) : List (List Char) → List (List Char)
  | [] => way.reverse
  | piece :: pieces =>
    let ending := if pieces.isEmpty then [[]] else []
    match dots? piece with
    | some 1 => straightened (ending ++ way) pieces
    | some 2 => straightened (ending ++ leave way) pieces
    | _ => straightened (piece :: way) pieces

/-- A path without pieces of dots; it starts with a slash. -/
def pathChars (cs : List Char) : List Char :=
  let cs := cs.map fun c => if c = '\\' then '/' else c
  let cs := if cs.head? = some '/' then cs.drop 1 else cs
  '/' :: escaped pathMarks (Text.joinAt '/' (straightened [] (Text.splitAt '/' cs)))

/-- What follows the host: a path, a query and a fragment. -/
def tail (cs : List Char) : String :=
  let path := cs.takeWhile fun c => c ≠ '?' ∧ c ≠ '#'
  let rest := cs.drop path.length
  let query := rest.takeWhile (· ≠ '#')
  let fragment := rest.drop query.length
  String.ofList (pathChars path ++ escaped queryMarks query ++ escaped fragmentMarks fragment)

/-- Whether a character is a slash, upright or leaning back. -/
def isSlash (c : Char) : Bool :=
  c = '/' || c = '\\'

/-- Whether a character ends the host and port of an address. -/
def endsAuthority (c : Char) : Bool :=
  isSlash c || c = '?' || c = '#'

/-- What an address of a file is, given what follows the colon: the file may be on
a host. -/
def ofFile (cs : List Char) : ServiceAddress :=
  let authority := match cs with
    | a :: b :: cs => if isSlash a && isSlash b then cs else []
    | _ => []
  let host := authority.takeWhile fun c => !endsAuthority c
  let rest := if authority.isEmpty then cs else authority.drop host.length
  if host.isEmpty then .hostless ("file://" ++ tail rest)
  else
    match (ServiceHost.ofChars? host).map ServiceHost.text with
    | none => .unreadable
    | some "localhost" => .hostless ("file://" ++ tail rest)
    | some name => .foreign ("file://" ++ name ++ tail rest)

/-- What an address of another scheme is whose addresses need not have a host,
given what follows the colon. -/
def ofOther (scheme : String) (cs : List Char) : ServiceAddress :=
  let text := scheme ++ ":" ++ String.ofList cs
  match cs with
  | '/' :: '/' :: c :: _ => if c = '/' then .hostless text else .foreign text
  | _ => .hostless text

/-- What a text is as the address of a service: blanks around it do not count. -/
def of (text : String) : ServiceAddress :=
  let isBlank := fun c : Char => c.toNat ≤ 32
  let cs := ((text.toList.dropWhile isBlank).reverse.dropWhile isBlank).reverse
  let cs := cs.filter fun c => c ≠ '\t' ∧ c ≠ '\n' ∧ c ≠ '\r'
  match scheme? cs with
  | none => .unreadable
  | some (scheme, rest) =>
    match hostSchemes.lookup scheme with
    | none => if scheme = "file" then ofFile rest else ofOther scheme rest
    | some usual =>
      let rest := rest.dropWhile isSlash
      let authority := rest.takeWhile fun c => !endsAuthority c
      match authorityText? usual authority with
      | none => .unreadable
      | some host =>
        let text := scheme ++ "://" ++ host ++ tail (rest.drop authority.length)
        if requestSchemes.contains scheme then .reachable text else .foreign text

end ServiceAddress

end StarFreight
