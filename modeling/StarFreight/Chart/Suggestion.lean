import StarFreight.Chart.Snapshot
import StarFreight.Decimal.Binary
import StarFreight.Text.Similarity
/-!
# Chart — suggestions

The names nearest to one that is not known. A scale says how similar two names are and how
similar they have to be (`Scale`). The names that are similar enough are ranked, the
most similar first and equally similar ones by name, and the front of the ranking is
suggested (`Scale.nearestNames`), of the systems of a snapshot (`Snapshot.suggestionsBy`).
-/

namespace StarFreight

/-- A measure of how similar names are. -/
structure Scale (ω : Type) where
  /-- How similar one normalized name is to another. -/
  similarity : String → String → ω
  compare : ω → ω → Ordering
  /-- Whether names so similar are near enough to be suggested. -/
  enough : ω → Bool
  [total : Std.TransCmp compare]

attribute [instance] Scale.total

namespace Scale

variable {ω : Type} (scale : Scale ω)

/-- How similar a stored name is to another. -/
def score (wanted name : String) : ω :=
  scale.similarity (Text.normalizeName wanted) (Text.normalizeName name)

/-- Whether one scored name does not come after another: a better score first,
and at equal scores the smaller name. -/
def ranksBefore (a b : ω × String) : Bool :=
  match scale.compare a.1 b.1 with
  | .gt => true
  | .lt => false
  | .eq => decide (a.2 ≤ b.2)

/-- The names near enough to a given one, the nearest first, at most `limit` of them. -/
def nearestNames (names : List String) (wanted : String) (limit : Nat) : List String :=
  let scored := names.map fun name => (scale.score wanted name, name)
  let near := scored.filter fun entry => scale.enough entry.1
  ((near.mergeSort scale.ranksBefore).take limit).map (·.2)

end Scale

/-- The names of the systems nearest to a given one by a scale. -/
def Snapshot.suggestionsBy {ω : Type} (scale : Scale ω) (snapshot : Snapshot) (name : String)
    (limit : Nat) : List String :=
  scale.nearestNames (snapshot.graph.systemList.map (·.name)) name limit

/-- Texts by their similarity, of which four fifths are near enough. -/
def textScale : Scale Float where
  similarity := Text.similarity
  compare := compareOn Decimal.floatPlace
  enough similarity := 0.8 ≤ similarity
  total := Std.instTransCmpCompareOnOfTransOrd

/-- The names of the systems most similar to a given one. -/
def Snapshot.suggestions (snapshot : Snapshot) (name : String) (limit : Nat) : List String :=
  snapshot.suggestionsBy textScale name limit

end StarFreight
