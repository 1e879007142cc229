import StarFreight.Security.SecurityClass
import StarFreight.Text.Blank
import StarFreight.Text.Lowercase
/-!
# Search — profiles

How a search trades jumps against exposure, and what entering a class of space
adds to the cost of a step under each profile.
-/

namespace StarFreight

/-- A way to weigh routes. -/
inductive Profile where
  /-- The fewest jumps. -/
  | shortest
  /-- Few jumps, away from low and no security. -/
  | balanced
  /-- High security only, both ends included. -/
  | safest
deriving DecidableEq, Repr

namespace Profile

/-- The name of a profile. -/
def label : Profile → String
  | .shortest => "shortest"
  | .balanced => "balanced"
  | .safest => "safest"

/-- The flag by which a routing oracle knows a profile. -/
def oracleFlag : Profile → String
  | .shortest => "shortest"
  | .balanced => "shortest"
  | .safest => "secure"

/-- The profile that a text names, or what is wrong with it. Case and the
blanks around it do not count. -/
def parse (text : String) : Except String Profile :=
  let name := Text.asciiLower (Text.trim text)
  if name = "shortest" then .ok .shortest
  else if name = "balanced" then .ok .balanced
  else if name = "safest" ∨ name = "secure" then .ok .safest
  else .error ("unknown route profile '" ++ name ++ "' (expected shortest, balanced, or safest)")

/-- What entering a class of space adds to the cost of a step. The safest
profile never leaves high security, so it has nothing to add. -/
def surcharge (profile : Profile) (c : SecurityClass) : Nat :=
  match profile, c with
  | .balanced, .highsec => 0
  | .balanced, .lowsec => 2
  | .balanced, _ => 5
  | _, _ => 0

end Profile

end StarFreight
