/-!
# Text — similarity

The Jaro–Winkler similarity of two texts, character by character. Two
characters match when they are equal and lie at most `window` apart, each
character at most once; Jaro's score weighs the matches of either text and
those among them that stand in another order, and Winkler's adds a bonus for
a shared beginning.
-/

namespace StarFreight

namespace Text

namespace Similarity

/-- How far apart two characters may stand and still match. -/
def window (m n : Nat) : Nat :=
  max m n / 2 - 1

/-- The first unused position of `b` near `i` that holds `c`. -/
def partner? (b : Array Char) (used : Array Bool) (reach i : Nat) (c : Char) : Option Nat :=
  let low := i - reach
  let high := min b.size (i + reach + 1)
  (List.range' low (high - low)).find? fun j => b[j]? == some c && used[j]? == some false

/-- The characters of `a`, from position `i` on, that find a partner in `b`,
and the positions of `b` used up. -/
def matched (b : Array Char) (reach : Nat) :
    Nat → List Char → Array Bool → List Char × Array Bool
  | _, [], used => ([], used)
  | i, c :: a, used =>
    match partner? b used reach i c with
    | none => matched b reach (i + 1) a used
    | some j =>
      let rest := matched b reach (i + 1) a (used.setIfInBounds j true)
      (c :: rest.1, rest.2)

/-- The characters at the positions marked as used. -/
def usedChars : List Char → List Bool → List Char
  | c :: cs, true :: marks => c :: usedChars cs marks
  | _ :: cs, false :: marks => usedChars cs marks
  | _, _ => []

/-- Jaro's similarity, from 0 for nothing shared to 1 for equal texts. -/
def jaro (a b : List Char) : Float :=
  if a.isEmpty && b.isEmpty then 1.0
  else if a.isEmpty || b.isEmpty then 0.0
  else
    let found := matched b.toArray (window a.length b.length) 0 a (Array.replicate b.length false)
    let left := found.1
    let right := usedChars b found.2.toList
    if left.isEmpty then 0.0
    else
      let m := Float.ofNat left.length
      let swaps := Float.ofNat (((left.zip right).filter fun p => p.1 != p.2).length / 2)
      (m / Float.ofNat a.length + m / Float.ofNat b.length + (m - swaps) / m) / 3.0

/-- The number of leading characters that two texts share, at most `limit`. -/
def sharedStart : Nat → List Char → List Char → Nat
  | limit + 1, c :: cs, d :: ds => if c = d then sharedStart limit cs ds + 1 else 0
  | _, _, _ => 0

/-- Jaro's similarity, raised for a shared beginning of up to four characters
once it exceeds 0.7. -/
def jaroWinkler (a b : List Char) : Float :=
  let sim := jaro a b
  if sim > 0.7 then sim + 0.1 * Float.ofNat (sharedStart 4 a b) * (1.0 - sim) else sim

end Similarity

/-- How alike two texts are. -/
def similarity (a b : String) : Float :=
  Similarity.jaroWinkler a.toList b.toList

end Text

end StarFreight
