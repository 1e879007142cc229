import StarFreight.Decimal.Reading
import StarFreight.Text.Blank
import StarFreight.Text.Pieces
/-!
# Config — lists of numbers

A list of numbers in a text: tokens between commas, blanks around them, empty
tokens passed over. The first token that is no 64-bit integer is what is wrong
with the text.
-/

namespace StarFreight

/-- The tokens of a list: its parts without blanks around them, the empty ones
passed over. -/
def listTokens (text : String) : List String :=
  (((Text.splitAt ',' text.toList).map Text.trimChars).filter fun part => !part.isEmpty).map
    String.ofList

/-- The numbers of a list, or the first token that is none. -/
def parseIdList (text : String) : Except String (List Int) :=
  (listTokens text).mapM fun token =>
    match Decimal.readInteger? token with
    | some n => .ok n
    | none => .error token

end StarFreight
