import StarFreight.Decimal.Digit
import StarFreight.Json.Field
import StarFreight.Json.Reader
import StarFreight.Oracle.Address
import StarFreight.Oracle.Basic
/-!
# Oracle — over HTTP

The oracle as a web service: the request that a call becomes, if the service has
an address, and the path or failure that a reply means. The query is written as
forms are: letters, digits and four marks stand for themselves, a blank is a
plus, and every other byte is a percent sign with two hexadecimal digits.
-/

namespace StarFreight

open Decimal

namespace OracleCall

/-- Numbers with commas between them. -/
def joinIds (ids : List SystemId) : String :=
  String.intercalate "," (ids.map integerText)

/-- Whether a byte stands for itself in a query. -/
def isPlainByte (n : Nat) : Bool :=
  (48 ≤ n && n < 58) || (65 ≤ n && n < 91) || (97 ≤ n && n < 123)
    || n == 42 || n == 45 || n == 46 || n == 95

/-- A byte as it is written in a query. -/
def encodeByte (byte : UInt8) : List Char :=
  let n := byte.toNat
  if n = 32 then ['+']
  else if isPlainByte n then [Char.ofNat n]
  else Text.Percent.encodeByte byte

/-- A text as it is written in a query. -/
def encodeText (s : String) : String :=
  String.ofList (s.toUTF8.toList.flatMap encodeByte)

/-- A text without the slashes at its end. -/
def withoutFinalSlashes (s : String) : String :=
  String.ofList (s.toList.reverse.dropWhile (· = '/')).reverse

/-- The address of a route, below a base address. -/
def routeText (base : String) (call : OracleCall) : String :=
  withoutFinalSlashes base ++ "/route/" ++ integerText call.origin ++ "/"
    ++ integerText call.destination ++ "/"

/-- What is asked about a route. -/
def queryText (call : OracleCall) : String :=
  let avoid := if call.avoid.isEmpty then "" else "&avoid=" ++ encodeText (joinIds call.avoid)
  "flag=" ++ encodeText call.flag ++ avoid

/-- An address with a query, behind one that is there and in front of a
fragment. -/
def withQuery (text query : String) : String :=
  let front := text.toList.takeWhile (· ≠ '#')
  let fragment := text.toList.dropWhile (· ≠ '#')
  let mark := match front.dropWhile (· ≠ '?') with
    | [] => ['?']
    | [_] => []
    | _ => ['&']
  String.ofList (front ++ mark ++ query.toList ++ fragment)

/-- The address that a call is sent to, or why there is none. -/
def address (base : String) (call : OracleCall) : Except OracleError String :=
  match ServiceAddress.of (call.routeText base) with
  | .unreadable => .error (.transport "builder error")
  | .hostless text => .error (.transport ("builder error for url (" ++ text ++ ")"))
  | .foreign text =>
    .error (.transport ("builder error for url (" ++ withQuery text call.queryText ++ ")"))
  | .reachable text => .ok (withQuery text call.queryText)

/-- Whether a call is waited for, though nothing may come of it. -/
def isWaitedFor (base : String) (call : OracleCall) : Bool :=
  match ServiceAddress.of (call.routeText base) with
  | .unreadable => false
  | .hostless _ => false
  | .foreign _ => true
  | .reachable _ => true

end OracleCall

/-- A request to a service. -/
structure Request where
  /-- The address that it is sent to, with what is asked. -/
  address : String
  /-- The kind of reply that is asked for. -/
  accepts : String := "application/json"
  /-- The name under which it is made. -/
  agent : String := "haulroute/0.1.0"
deriving DecidableEq, Repr

/-- The request that a call becomes, or why there is none. -/
def OracleCall.request (base : String) (call : OracleCall) : Except OracleError Request :=
  (call.address base).map fun address => { address }

/-- What becomes of a request. -/
inductive Reply where
  /-- It is not delivered, or the connection ends before the reply does. -/
  | undelivered
  /-- A reply with a status and a body. -/
  | answered (status : Nat) (body : String)
deriving DecidableEq, Repr

/-- The path that the reply to a request means. -/
def Reply.path (request : Request) : Reply → Except OracleError (List SystemId)
  | .undelivered =>
    .error (.transport ("error sending request for url (" ++ request.address ++ ")"))
  | .answered status body =>
    if 200 ≤ status ∧ status < 300 then
      match Json.parse? body >>= Json.toIntegers? with
      | none => .error (.transport "error decoding response body")
      | some [] => .error .emptyPath
      | some path => .ok path
    else .error (.status status)

/-- The oracle at a base address, given what becomes of the n-th request. -/
def Oracle.http (base : String) (exchange : Nat → Request → Reply) : Oracle :=
  fun n call => do
    let request ← call.request base
    (exchange n request).path request

end StarFreight
