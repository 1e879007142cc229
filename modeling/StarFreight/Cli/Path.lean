import StarFreight.Text.Pieces
/-!
# Cli — paths

A path leads to a place in a tree of directories step by step, from the root or
from the directory that a program runs in. It is written in bytes, steps with
slashes between them, and nothing of what is written is lost
(`Path.bytes_ofBytes`): a path may be too long for what reads it.
-/

namespace StarFreight

/-- A name in a directory: bytes, whether they are a text or not. -/
abbrev FileName := List UInt8

/-- One step of a path. -/
inductive PathStep where
  /-- Nothing, as between two slashes. Like `here` it stays in what has to be a
  directory. -/
  | nothing
  /-- Stays in what has to be a directory. -/
  | here
  /-- Goes to the directory that this one lies in. -/
  | up
  /-- Goes to what has a name in this directory. -/
  | name (s : FileName)
deriving DecidableEq, Repr

/-- A path. -/
structure Path where
  rooted : Bool
  steps : List PathStep
deriving DecidableEq, Repr

/-- The byte of a slash. -/
def slash : UInt8 := 47

/-- The byte of a point. -/
def point : UInt8 := 46

namespace PathStep

/-- The step that a part of a path stands for. -/
def ofPart (part : FileName) : PathStep :=
  if part = [] then .nothing
  else if part = [point] then .here
  else if part = [point, point] then .up
  else .name part

/-- The bytes of a step. -/
def bytes : PathStep → FileName
  | .nothing => []
  | .here => [point]
  | .up => [point, point]
  | .name s => s

/-- Whether a step stays where it is taken. -/
def stays (step : PathStep) : Bool :=
  step = .nothing || step = .here

/-- A part is what its step is written as. -/
@[simp] theorem bytes_ofPart (part : FileName) : (ofPart part).bytes = part := by
  unfold ofPart
  split
  · next h => simp [bytes, h]
  · split
    · next h => simp [bytes, h]
    · split
      · next h => simp [bytes, h]
      · rfl

end PathStep

namespace Path

/-- The path that bytes write. -/
def ofBytes : List UInt8 → Path
  | [] => { rooted := false, steps := [] }
  | b :: bs =>
    if b = slash then { rooted := true, steps := (Text.splitAt slash bs).map .ofPart }
    else { rooted := false, steps := (Text.splitAt slash (b :: bs)).map .ofPart }

/-- The bytes of a path. -/
def bytes (path : Path) : List UInt8 :=
  let steps := Text.joinAt slash (path.steps.map PathStep.bytes)
  if path.rooted then slash :: steps else steps

/-- **A path is written as it was.** -/
theorem bytes_ofBytes (bs : List UInt8) : (ofBytes bs).bytes = bs := by
  have parts : ∀ bs, Text.joinAt slash (((Text.splitAt slash bs).map .ofPart).map PathStep.bytes)
      = bs := by
    intro bs
    simp [List.map_map, Function.comp_def, Text.joinAt_splitAt]
  cases bs with
  | nil => rfl
  | cons b bs =>
    by_cases h : b = slash
    · simp only [ofBytes, bytes, h, ↓reduceIte, parts]
    · simp only [ofBytes, bytes, h, ↓reduceIte, Bool.false_eq_true, parts]

/-- The path that a text writes. -/
def ofText (text : String) : Path :=
  ofBytes text.toUTF8.toList

/-- The path from the root that goes by names alone. -/
def ofNames (names : List FileName) : Path :=
  { rooted := true, steps := names.map .name }

/-- The text of a path, if its bytes are one. -/
def text? (path : Path) : Option String :=
  String.fromUTF8? ⟨path.bytes.toArray⟩

/-- Whether a path leads nowhere, having no steps and no root. -/
def isEmpty (path : Path) : Bool :=
  !path.rooted && path.steps.isEmpty

/-- Steps without those at their end that stay where they are. -/
def moving (steps : List PathStep) : List PathStep :=
  (steps.reverse.dropWhile PathStep.stays).reverse

/-- The path of the directory in which the last step of a path is taken, unless
that is where the path starts. -/
def parent? (path : Path) : Option Path :=
  let steps := moving path.steps
  let parent : Path := { path with steps := moving steps.dropLast }
  if steps.isEmpty || parent.isEmpty then none else some parent

end Path

end StarFreight
