/-!
# Text — pieces

A sequence, of characters or of bytes, in pieces, taken apart at a mark. There is
one piece more than there are marks, and with the mark between them the pieces
make up the sequence again (`joinAt_splitAt`).
-/

namespace StarFreight

namespace Text

variable {α : Type} [DecidableEq α]

/-- The pieces between the marks in a sequence. -/
def splitAt (mark : α) : List α → List (List α)
  | [] => [[]]
  | c :: cs =>
    if c = mark then [] :: splitAt mark cs
    else
      match splitAt mark cs with
      | [] => [[c]]
      | piece :: pieces => (c :: piece) :: pieces

/-- Pieces with a mark between them. -/
def joinAt (mark : α) : List (List α) → List α
  | [] => []
  | [piece] => piece
  | piece :: pieces => piece ++ mark :: joinAt mark pieces

/-- There is at least one piece. -/
theorem splitAt_ne_nil (mark : α) (cs : List α) : splitAt mark cs ≠ [] := by
  cases cs with
  | nil => simp [splitAt]
  | cons c cs =>
    unfold splitAt
    split
    · simp
    · split <;> simp

/-- **The pieces make up what was taken apart.** -/
theorem joinAt_splitAt (mark : α) (cs : List α) : joinAt mark (splitAt mark cs) = cs := by
  induction cs with
  | nil => rfl
  | cons c cs ih =>
    unfold splitAt
    cases h : splitAt mark cs with
    | nil => exact absurd h (splitAt_ne_nil mark cs)
    | cons piece pieces =>
      rw [h] at ih
      split
      · next hc => subst hc; simp [joinAt, ih]
      · cases pieces with
        | nil => simpa [joinAt] using ih
        | cons next pieces => simpa [joinAt] using ih

end Text

end StarFreight
