import StarFreight.Json.Basic
import StarFreight.Text.Hexadecimal
/-!
# Json — writing documents

`Json.compact` writes a document without any space; `Json.pretty` starts a new
line for every item and member, indented by two spaces a level. Strings escape
the quote, the backslash and the control characters below U+0020 and nothing
else.
-/

namespace StarFreight

open Decimal

namespace Numeral

/-- The characters of an exponent: its sign, a plus sign too, and its digits. -/
def exponentChars (e : Int) : List Char :=
  if e < 0 then integerChars e else '+' :: integerChars e

/-- The characters of a numeral. -/
def chars (n : Numeral) : List Char :=
  let sign := if n.negative then ['-'] else []
  let fraction := if n.fraction.isEmpty then [] else '.' :: digitChars n.fraction
  let exponent := match n.exponent with
    | none => []
    | some e => 'e' :: exponentChars e
  sign ++ digitChars n.whole ++ fraction ++ exponent

end Numeral

namespace Json

/-- The characters that a character becomes inside a string literal. -/
def escapeChar (c : Char) : List Char :=
  if c = '"' then ['\\', '"']
  else if c = '\\' then ['\\', '\\']
  else if c = '\n' then ['\\', 'n']
  else if c = '\r' then ['\\', 'r']
  else if c = '\t' then ['\\', 't']
  else if c.toNat = 8 then ['\\', 'b']
  else if c.toNat = 12 then ['\\', 'f']
  else if c.toNat < 32 then
    ['\\', 'u', '0', '0', Text.hexDigit (c.toNat / 16), Text.hexDigit (c.toNat % 16)]
  else [c]

/-- A string literal. -/
def quote (s : String) : List Char :=
  '"' :: s.toList.flatMap escapeChar ++ ['"']

mutual

/-- The characters of a document, without any space. -/
def compactChars : Json → List Char
  | .null => ['n', 'u', 'l', 'l']
  | .bool true => ['t', 'r', 'u', 'e']
  | .bool false => ['f', 'a', 'l', 's', 'e']
  | .number n => n.chars
  | .string s => quote s
  | .unpaired => quote "\uFFFD"
  | .array items => '[' :: compactItems items ++ [']']
  | .object members => '{' :: compactMembers members ++ ['}']

/-- The items of an array, with commas between them. -/
def compactItems : List Json → List Char
  | [] => []
  | [item] => compactChars item
  | item :: items => compactChars item ++ ',' :: compactItems items

/-- The members of an object, with commas between them. -/
def compactMembers : List (String × Json) → List Char
  | [] => []
  | [(key, value)] => quote key ++ ':' :: compactChars value
  | (key, value) :: members =>
    quote key ++ ':' :: compactChars value ++ ',' :: compactMembers members

end

/-- A new line, indented to a level. -/
def newLine (level : Nat) : List Char :=
  '\n' :: List.replicate (2 * level) ' '

mutual

/-- The characters of a document whose first line is indented to a level. -/
def prettyChars (level : Nat) : Json → List Char
  | .array [] => ['[', ']']
  | .array items => '[' :: prettyItems (level + 1) items ++ newLine level ++ [']']
  | .object [] => ['{', '}']
  | .object members => '{' :: prettyMembers (level + 1) members ++ newLine level ++ ['}']
  | .null => ['n', 'u', 'l', 'l']
  | .bool true => ['t', 'r', 'u', 'e']
  | .bool false => ['f', 'a', 'l', 's', 'e']
  | .number n => n.chars
  | .string s => quote s
  | .unpaired => quote "\uFFFD"

/-- The items of an array, each on a line of its own. -/
def prettyItems (level : Nat) : List Json → List Char
  | [] => []
  | [item] => newLine level ++ prettyChars level item
  | item :: items => newLine level ++ prettyChars level item ++ ',' :: prettyItems level items

/-- The members of an object, each on a line of its own. -/
def prettyMembers (level : Nat) : List (String × Json) → List Char
  | [] => []
  | [(key, value)] => newLine level ++ quote key ++ ':' :: ' ' :: prettyChars level value
  | (key, value) :: members =>
    newLine level ++ quote key ++ ':' :: ' ' :: prettyChars level value
      ++ ',' :: prettyMembers level members

end

/-- A document on one line, without any space. -/
def compact (doc : Json) : String :=
  String.ofList (compactChars doc)

/-- A document laid out over lines. -/
def pretty (doc : Json) : String :=
  String.ofList (prettyChars 0 doc)

end Json

end StarFreight
