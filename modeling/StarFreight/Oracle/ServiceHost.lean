import StarFreight.Decimal.Digit
import StarFreight.Decimal.Power
import StarFreight.Text.Blank
import StarFreight.Text.Lenient
import StarFreight.Text.Lowercase
import StarFreight.Text.Percent
import StarFreight.Text.Pieces
import StarFreight.Text.Punycode
/-!
# Oracle — hosts of services

The host in the address of a service: a name, a number of 32 bits or eight words.
`ServiceHost.ofChars?` reads one however it is written, and `ServiceHost.text`
is the one way in which it is written then. A number is read in one to four parts
with dots between them, of which the last gives all bytes that the others leave;
words stand in square brackets, and two colons stand for those that are 0.
-/

namespace StarFreight

open Decimal Text

/-- A host of a service. -/
inductive ServiceHost where
  | name (text : String)
  /-- One with a number of 32 bits. -/
  | number (n : Nat)
  /-- One with eight words of 16 bits. -/
  | words (ws : List Nat)
deriving DecidableEq, Repr

namespace ServiceHost

/-! ## Numbers -/

/-- A part of a number: in hexadecimal digits behind a zero and an x, in octal
digits behind a zero, and otherwise in decimal digits. -/
def readPart? : List Char → Option Nat
  | [] => none
  | '0' :: 'x' :: ds => readBase? 16 ds
  | '0' :: 'X' :: ds => readBase? 16 ds
  | '0' :: d :: ds => readBase? 8 (d :: ds)
  | ds => readBase? 10 ds

/-- The parts between the dots of a name, the last left out where it is empty. -/
def parts (cs : List Char) : List (List Char) :=
  let pieces := splitAt '.' cs
  if pieces.getLast? = some [] then pieces.dropLast else pieces

/-- Whether parts are meant as a number: the last is one, or is at least written
in decimal digits. -/
def areNumeric (parts : List (List Char)) : Bool :=
  match parts.getLast? with
  | none => false
  | some last => (!last.isEmpty && last.all Char.isDigit) || (readPart? last).isSome

/-- The number that parts write. -/
def readNumber? (parts : List (List Char)) : Option Nat := do
  let numbers ← parts.mapM readPart?
  let bytes := numbers.dropLast
  let last ← numbers.getLast?
  if 3 < bytes.length ∨ bytes.any (255 < ·) then none
  let room := twoTo (8 * (4 - bytes.length))
  if room ≤ last then none
  return bytes.foldl (fun n byte => 256 * n + byte) 0 * room + last

/-- A number as four bytes with dots between them. -/
def numberText (n : Nat) : String :=
  String.intercalate "." ([24, 16, 8, 0].map fun bits => toString (n / twoTo bits % 256))

/-! ## Words -/

/-- The word of one to four hexadecimal digits. -/
def readWord? (cs : List Char) : Option Nat :=
  if cs.isEmpty ∨ 4 < cs.length then none else readBase? 16 cs

/-- The byte of decimal digits without a zero in front. -/
def readByte? (cs : List Char) : Option Nat := do
  if cs.isEmpty ∨ (cs.head? = some '0' ∧ cs ≠ ['0']) then none
  let n ← readBase? 10 cs
  if 255 < n then none else some n

/-- The words of groups with colons between them; the last may be two, written as
four bytes with dots between them. -/
def readGroups? : List (List Char) → Option (List Nat)
  | [] => some []
  | [group] =>
    if group.contains '.' then do
      match ← (splitAt '.' group).mapM readByte? with
      | [a, b, c, d] => some [256 * a + b, 256 * c + d]
      | _ => none
    else (readWord? group).map ([·])
  | group :: groups => do return (← readWord? group) :: (← readGroups? groups)

/-- What stands before and behind the first two colons in a row. -/
def aroundGap? : List Char → Option (List Char × List Char)
  | [] => none
  | ':' :: ':' :: cs => some ([], cs)
  | c :: cs => (aroundGap? cs).map fun (front, back) => (c :: front, back)

/-- The groups between colons, of nothing none. -/
def groups (cs : List Char) : List (List Char) :=
  if cs.isEmpty then [] else splitAt ':' cs

/-- Eight words; two colons stand for one or more that are 0. -/
def readWords? (cs : List Char) : Option (List Nat) := do
  match aroundGap? cs with
  | none =>
    let words ← readGroups? (groups cs)
    if words.length = 8 then some words else none
  | some (front, back) =>
    let front ← (groups front).mapM readWord?
    let back ← readGroups? (groups back)
    let count := front.length + back.length
    if count < 8 then some (front ++ List.replicate (8 - count) 0 ++ back) else none

/-- Where the longest row of words that are 0 starts, the first of those that are
equally long, and its length; a single word is no row. -/
def longestGap? (words : List Nat) : Option (Nat × Nat) :=
  let gaps := (List.range words.length).map fun i =>
    (i, ((words.drop i).takeWhile (· = 0)).length)
  let longest := gaps.foldl (fun best gap => if best.2 < gap.2 then gap else best) (0, 1)
  if 1 < longest.2 then some longest else none

/-- Words in hexadecimal digits with colons between them, and two colons for the
longest row of those that are 0. -/
def wordsText (words : List Nat) : String :=
  let written := fun words : List Nat =>
    String.intercalate ":" (words.map fun word => String.ofList (Nat.toDigits 16 word))
  match longestGap? words with
  | none => written words
  | some (first, length) =>
    written (words.take first) ++ "::" ++ written (words.drop (first + length))

/-! ## Names -/

/-- The characters that no name has, beside controls and blanks. -/
def foreignMarks : List Char :=
  ['#', '%', '/', ':', '<', '>', '?', '@', '[', '\\', ']', '^', '|', replacement]

/-- Whether a character may stand in a name. -/
def isNameChar (c : Char) : Bool :=
  32 < c.toNat && c.toNat ≠ 127 && !isBlank c && !foreignMarks.contains c

/-- A part of a name in small letters, and in ASCII. -/
def labelChars (label : List Char) : List Char :=
  let label := lowerChars label
  if label.all (·.toNat < 128) then label else "xn--".toList ++ Punycode.encode label

/-! ## Hosts -/

/-- The host that characters write. -/
def ofChars? (cs : List Char) : Option ServiceHost :=
  match cs with
  | '[' :: cs =>
    if cs.getLast? = some ']' then (readWords? cs.dropLast).map .words else none
  | cs =>
    let cs := lenientChars (Percent.decode cs)
    if cs.isEmpty || !cs.all isNameChar then none
    else
      let name := joinAt '.' ((splitAt '.' cs).map labelChars)
      if areNumeric (parts name) then (readNumber? (parts name)).map .number
      else some (.name (String.ofList name))

/-- A host as it is written. -/
def text : ServiceHost → String
  | .name text => text
  | .number n => numberText n
  | .words ws => "[" ++ wordsText ws ++ "]"

end ServiceHost

end StarFreight
