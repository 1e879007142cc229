import StarFreight.Chart.StarSystem
/-!
# Oracle — asking for a path

A routing oracle is asked for a path between two systems that keeps away from
others. It is whatever answers such calls; the n-th call of a service gets the
n-th answer.
-/

namespace StarFreight

/-- A question to a routing oracle. -/
structure OracleCall where
  origin : SystemId
  destination : SystemId
  flag : String
  avoid : List SystemId
deriving DecidableEq, Repr

/-- Why an oracle gives no path. -/
inductive OracleError where
  /-- It answers with a status that does not mean success. -/
  | status (code : Nat)
  /-- It answers with a path without systems. -/
  | emptyPath
  /-- It does not answer, or not with a path. -/
  | transport (detail : String)
deriving DecidableEq, Repr

/-- The message of an oracle's failure. -/
def OracleError.message : OracleError → String
  | .status code => "routing oracle returned HTTP " ++ toString code
  | .emptyPath => "routing oracle returned an empty path"
  | .transport detail => detail

/-- What answers the n-th call, counting from 0. -/
abbrev Oracle := Nat → OracleCall → Except OracleError (List SystemId)

end StarFreight
