import StarFreight.Text.CaseTable
/-!
# Text — lower case

Lower-casing in full: every capital becomes its small letter, U+0130 becomes
an `i` with a combining dot, and a capital sigma becomes the final sigma at
the end of a word and the medial one elsewhere (`isFinalSigma`).
`asciiLower` is the plain rule that touches the 26 Latin capitals alone.
-/

namespace StarFreight

namespace Text

/-- The small letter of a character where that is a single character. -/
def smallLetter (c : Char) : Char :=
  if c.toNat < 128 then c.toLower
  else
    match caseRuns.find? (·.covers c.toNat) with
    | some run => Char.ofNat (run.small c.toNat)
    | none => c

/-- Whether case rules look through a character. -/
def isCaseIgnorable (c : Char) : Bool :=
  inRanges ignorableRanges c.toNat

/-- Whether a character that case rules do not look through has case. -/
def isCased (c : Char) : Bool :=
  inRanges casedRanges c.toNat

/-- Whether the first character that case rules do not look through has case. -/
def meetsCased (cs : List Char) : Bool :=
  match cs.dropWhile isCaseIgnorable with
  | [] => false
  | c :: _ => isCased c

/-- A sigma ends a word when a letter stands before it and none after it;
`before` is read backwards from the sigma. -/
def isFinalSigma (before after : List Char) : Bool :=
  meetsCased before && !meetsCased after

/-- What a character becomes between `before`, read backwards, and `after`. -/
def lowerAt (before : List Char) (c : Char) (after : List Char) : List Char :=
  if c = 'Σ' then [if isFinalSigma before after then 'ς' else 'σ']
  else if c = 'İ' then ['i', '\u0307']
  else [smallLetter c]

/-- The lower case of the characters that follow `before`, which is read
backwards. -/
def lowerFrom (before : List Char) : List Char → List Char
  | [] => []
  | c :: after => lowerAt before c after ++ lowerFrom (c :: before) after

/-- The lower case of a sequence of characters. -/
def lowerChars (cs : List Char) : List Char :=
  lowerFrom [] cs

/-- The lower case of a text. -/
def lowercase (s : String) : String :=
  String.ofList (lowerChars s.toList)

/-- A text with its 26 Latin capitals made small and all else kept. -/
def asciiLower (s : String) : String :=
  String.ofList (s.toList.map Char.toLower)

end Text

end StarFreight
