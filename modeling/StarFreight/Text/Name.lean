import StarFreight.Text.Blank
import StarFreight.Text.Lowercase
/-!
# Text — names

Two spellings name the same place when `normalizeName` makes them equal:
words are kept, the blanks around and between them are not, and case is not.
-/

namespace StarFreight

namespace Text

/-- The lower case of a name's words with single spaces between them. -/
def normalizeChars (cs : List Char) : List Char :=
  lowerChars (collapse cs)

/-- The form under which names are compared. -/
def normalizeName (name : String) : String :=
  String.ofList (normalizeChars name.toList)

/-- Whether `part` occurs in `whole` without a gap. -/
def occursIn (part : List Char) : List Char → Bool
  | [] => part.isEmpty
  | c :: cs => part.isPrefixOf (c :: cs) || occursIn part cs

/-- Whether the text `part` occurs in the text `whole`. -/
def contains (whole part : String) : Bool :=
  occursIn part.toList whole.toList

/-- What stands before the first `separator`, if there is one. -/
def before? (separator : Char) (s : String) : Option String :=
  let cs := s.toList
  if separator ∈ cs then some (String.ofList (cs.takeWhile (· ≠ separator))) else none

end Text

end StarFreight
