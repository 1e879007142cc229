import StarFreight.Json.Basic
import StarFreight.Text.Hexadecimal
/-!
# Json — reading documents

`Json.parse?` reads a whole text strictly: one value, blanks around its
tokens, and nothing else — no comments, no trailing commas, no leading zeros
and no control characters inside strings. A string may denote no text; it is
read as `Json.unpaired`, and so is an object one of whose keys denotes none.
-/

namespace StarFreight

open Decimal

namespace Json

/-- Whether a character may stand between tokens. -/
def isGap (c : Char) : Bool :=
  c = ' ' || c = '\n' || c = '\t' || c = '\r'

/-- What follows the blanks at the front. -/
def skipGap (cs : List Char) : List Char :=
  cs.dropWhile isGap

/-- The code unit written by four hexadecimal digits, and what follows. -/
def readUnit? : List Char → Option (Nat × List Char)
  | a :: b :: c :: d :: rest => do
    let a ← Text.hexValue? a
    let b ← Text.hexValue? b
    let c ← Text.hexValue? c
    let d ← Text.hexValue? d
    some (((a * 16 + b) * 16 + c) * 16 + d, rest)
  | _ => none

/-- A part of a string literal: a character, or a code unit in the range of
the surrogates. -/
inductive Piece where
  | char (c : Char)
  /-- A surrogate code unit, given by an escape. -/
  | surrogate (unit : Nat)
deriving Repr

/-- The piece that the characters after a backslash stand for, and what
follows. -/
def readEscape? : List Char → Option (Piece × List Char)
  | '"' :: rest => some (.char '"', rest)
  | '\\' :: rest => some (.char '\\', rest)
  | '/' :: rest => some (.char '/', rest)
  | 'b' :: rest => some (.char '\x08', rest)
  | 'f' :: rest => some (.char '\x0c', rest)
  | 'n' :: rest => some (.char '\n', rest)
  | 'r' :: rest => some (.char '\r', rest)
  | 't' :: rest => some (.char '\t', rest)
  | 'u' :: rest => do
    let (unit, rest) ← readUnit? rest
    if 0xD800 ≤ unit ∧ unit < 0xE000 then some (.surrogate unit, rest)
    else some (.char (Char.ofNat unit), rest)
  | _ => none

/-- The pieces of a string literal up to its closing quote, and what follows. -/
def readPieces? : Nat → List Char → Option (List Piece × List Char)
  | 0, _ => none
  | _, [] => none
  | _ + 1, '"' :: rest => some ([], rest)
  | fuel + 1, '\\' :: rest => do
    let (piece, rest) ← readEscape? rest
    let (pieces, rest) ← readPieces? fuel rest
    some (piece :: pieces, rest)
  | fuel + 1, c :: rest =>
    if c.toNat < 32 then none
    else do
      let (pieces, rest) ← readPieces? fuel rest
      some (.char c :: pieces, rest)

/-- The characters that pieces denote: a leading and a trailing surrogate make
one character, and a surrogate without its partner none. -/
def joinPieces? : List Piece → Option (List Char)
  | [] => some []
  | .char c :: pieces => (joinPieces? pieces).map (c :: ·)
  | .surrogate high :: .surrogate low :: pieces =>
    if high < 0xDC00 ∧ 0xDC00 ≤ low then
      let code := 0x10000 + (high - 0xD800) * 0x400 + (low - 0xDC00)
      (joinPieces? pieces).map (Char.ofNat code :: ·)
    else none
  | .surrogate _ :: _ => none

/-- A string literal after its opening quote: the text, none when it denotes
none, and what follows. -/
def readString? (cs : List Char) : Option (Option String × List Char) := do
  let (pieces, rest) ← readPieces? (cs.length + 1) cs
  some ((joinPieces? pieces).map String.ofList, rest)

/-- The digits at the front, and what follows. -/
def readDigitRun : List Char → List Digit × List Char
  | [] => ([], [])
  | c :: cs =>
    match Digit.ofChar? c with
    | some d => let (ds, rest) := readDigitRun cs; (d :: ds, rest)
    | none => ([], c :: cs)

/-- The digits before the point: a zero alone, or digits that start with
another. -/
def readWhole? (cs : List Char) : Option (List Digit × List Char) :=
  match readDigitRun cs with
  | ([], _) => none
  | ([d], rest) => some ([d], rest)
  | (d :: ds, rest) => if d.val = 0 then none else some (d :: ds, rest)

/-- The digits after a point, if there is one. -/
def readFraction? : List Char → Option (List Digit × List Char)
  | '.' :: cs =>
    match readDigitRun cs with
    | ([], _) => none
    | (ds, rest) => some (ds, rest)
  | cs => some ([], cs)

/-- The exponent after its mark: an optional sign and digits. -/
def readExponentDigits? (negative : Bool) (cs : List Char) : Option (Option Int × List Char) :=
  match readDigitRun cs with
  | ([], _) => none
  | (ds, rest) =>
    let n : Int := ofDigits ds
    some (some (if negative then -n else n), rest)

/-- The exponent, if there is one. -/
def readExponent? : List Char → Option (Option Int × List Char)
  | c :: cs =>
    if c = 'e' || c = 'E' then
      match cs with
      | '+' :: cs => readExponentDigits? false cs
      | '-' :: cs => readExponentDigits? true cs
      | cs => readExponentDigits? false cs
    else some (none, c :: cs)
  | [] => some (none, [])

/-- A number, and what follows. -/
def readNumeral? (cs : List Char) : Option (Numeral × List Char) := do
  let (negative, cs) := match cs with
    | '-' :: cs => (true, cs)
    | cs => (false, cs)
  let (whole, cs) ← readWhole? cs
  let (fraction, cs) ← readFraction? cs
  let (exponent, cs) ← readExponent? cs
  some ({ negative, whole, fraction, exponent }, cs)

/-- The object of the members that were read. -/
def objectOf (members : List (Option String × Json)) : Json :=
  match members.mapM fun (key, value) => key.map (·, value) with
  | some members => .object members
  | none => .unpaired

mutual

/-- A value at the front, and what follows. The first argument bounds the
depth of the reading and never runs out below twice the length of the text. -/
def readValue? : Nat → List Char → Option (Json × List Char)
  | 0, _ => none
  | fuel + 1, cs =>
    match skipGap cs with
    | 'n' :: 'u' :: 'l' :: 'l' :: rest => some (.null, rest)
    | 't' :: 'r' :: 'u' :: 'e' :: rest => some (.bool true, rest)
    | 'f' :: 'a' :: 'l' :: 's' :: 'e' :: rest => some (.bool false, rest)
    | '"' :: rest => do
      let (text, rest) ← readString? rest
      some (text.elim .unpaired .string, rest)
    | '[' :: rest =>
      match skipGap rest with
      | ']' :: rest => some (.array [], rest)
      | rest => do
        let (items, rest) ← readItems? fuel rest
        some (.array items, rest)
    | '{' :: rest =>
      match skipGap rest with
      | '}' :: rest => some (.object [], rest)
      | rest => do
        let (members, rest) ← readMembers? fuel rest
        some (objectOf members, rest)
    | rest => do
      let (n, rest) ← readNumeral? rest
      some (.number n, rest)

/-- The items of an array up to its closing bracket, and what follows. -/
def readItems? : Nat → List Char → Option (List Json × List Char)
  | 0, _ => none
  | fuel + 1, cs => do
    let (item, rest) ← readValue? fuel cs
    match skipGap rest with
    | ',' :: rest =>
      let (items, rest) ← readItems? fuel rest
      some (item :: items, rest)
    | ']' :: rest => some ([item], rest)
    | _ => none

/-- The members of an object up to its closing brace, and what follows; no key
for one that denotes no text. -/
def readMembers? : Nat → List Char → Option (List (Option String × Json) × List Char)
  | 0, _ => none
  | fuel + 1, cs =>
    match skipGap cs with
    | '"' :: rest => do
      let (key, rest) ← readString? rest
      match skipGap rest with
      | ':' :: rest =>
        let (value, rest) ← readValue? fuel rest
        match skipGap rest with
        | ',' :: rest =>
          let (members, rest) ← readMembers? fuel rest
          some ((key, value) :: members, rest)
        | '}' :: rest => some ([(key, value)], rest)
        | _ => none
      | _ => none
    | _ => none

end

/-- The document that a sequence of characters is, from end to end. -/
def parseChars? (cs : List Char) : Option Json := do
  let (doc, rest) ← readValue? (2 * cs.length + 2) cs
  if (skipGap rest).isEmpty then some doc else none

/-- The document that a text is, from end to end. -/
def parse? (text : String) : Option Json :=
  parseChars? text.toList

end Json

end StarFreight
