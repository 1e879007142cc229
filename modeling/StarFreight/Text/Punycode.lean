/-!
# Text — Punycode

A text with characters beyond ASCII, written in ASCII. Its ASCII characters come
first, in their order. The others follow from the lowest to the highest, each as
the distance that a walk goes from the one before: once around all places where a
character can be put in for every number of a character that is passed. A
distance is written in digits of 36 kinds with the lowest first, and where it ends
is told by a threshold for each digit, which follows the size of the distances
before.
-/

namespace StarFreight

namespace Text

namespace Punycode

/-- A digit: a small letter for a number below 26, and a figure above. -/
def digitChar (d : Nat) : Char :=
  if d < 26 then Char.ofNat (97 + d) else Char.ofNat (22 + d)

/-- The least number that is not the last digit of a distance, for the digit at
a position. -/
def threshold (bias position : Nat) : Nat :=
  if position ≤ bias then 1
  else if position < bias + 26 then position - bias
  else 26

/-- No threshold is 0. -/
theorem threshold_pos (bias position : Nat) : 1 ≤ threshold bias position := by
  grind [threshold]

/-- A distance in digits, from the one at a position on. -/
def distanceChars (bias position distance : Nat) : List Char :=
  let t := threshold bias position
  if distance < t then [digitChar distance]
  else
    digitChar (t + (distance - t) % (36 - t))
      :: distanceChars bias (position + 36) ((distance - t) / (36 - t))
termination_by distance
decreasing_by
  have hpos := threshold_pos bias position
  have hle := Nat.div_le_self (distance - threshold bias position)
    (36 - threshold bias position)
  omega

/-- A bias for distances of a size, on top of one that is there. -/
def biasFor (base size : Nat) : Nat :=
  if 455 < size then biasFor (base + 36) (size / 35)
  else base + 36 * size / (size + 38)
termination_by size
decreasing_by exact Nat.div_lt_self (by omega) (by omega)

/-- The bias after a distance, given how many characters there are with the one
that it leads to; the first distance counts for little. -/
def biasAfter (isFirst : Bool) (distance count : Nat) : Nat :=
  let size := if isFirst then distance / 700 else distance / 2
  biasFor 0 (size + size / count)

/-- How far the walk has come. -/
structure Walk where
  /-- What is written, one distance after the other. -/
  written : List Char
  /-- How far it is from the last character. -/
  distance : Nat
  /-- The bias for the next distance. -/
  bias : Nat
  /-- How many characters have their place. -/
  count : Nat

/-- Walks past the place in front of a character, in the round of the number `n`;
`plain` is how many characters are ASCII. -/
def Walk.pass (plain n : Nat) (walk : Walk) (c : Char) : Walk :=
  if c.toNat < n then { walk with distance := walk.distance + 1 }
  else if c.toNat = n then
    { written := walk.written ++ distanceChars walk.bias 36 walk.distance
      distance := 0
      bias := biasAfter (walk.count = plain) walk.distance (walk.count + 1)
      count := walk.count + 1 }
  else walk

/-- Walks the rounds of numbers that characters have, in ascending order, from the
round of the number `n` on. -/
def Walk.rounds (cs : List Char) (plain : Nat) : Nat → List Nat → Walk → Walk
  | _, [], walk => walk
  | n, next :: numbers, walk =>
    let start := { walk with distance := walk.distance + (next - n) * (walk.count + 1) }
    let walked := cs.foldl (Walk.pass plain next) start
    rounds cs plain (next + 1) numbers { walked with distance := walked.distance + 1 }

/-- The numbers of the characters beyond ASCII in ascending order, each once. -/
def numbersBeyond (cs : List Char) : List Nat :=
  ((cs.map Char.toNat).filter (128 ≤ ·)).eraseDups.mergeSort

/-- Characters written in ASCII. -/
def encode (cs : List Char) : List Char :=
  let plain := cs.filter (·.toNat < 128)
  let start : Walk := ⟨[], 0, 72, plain.length⟩
  let walk := start.rounds cs plain.length 128 (numbersBeyond cs)
  (if plain.isEmpty then [] else plain ++ ['-']) ++ walk.written

end Punycode

end Text

end StarFreight
