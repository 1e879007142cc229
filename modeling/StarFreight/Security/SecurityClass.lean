/-!
# Security — classes

The six classes of space that travel is gated and priced by: three bands of
the security value and three special zones.
-/

namespace StarFreight

/-- A class of space. -/
inductive SecurityClass where
  | highsec
  | lowsec
  | nullsec
  | pochven
  | zarzakh
  | thera
deriving DecidableEq, Repr

namespace SecurityClass

/-- Every class, in the order in which classes are listed. -/
def all : List SecurityClass :=
  [.highsec, .lowsec, .nullsec, .pochven, .zarzakh, .thera]

/-- The name of a class. -/
def label : SecurityClass → String
  | .highsec => "highsec"
  | .lowsec => "lowsec"
  | .nullsec => "nullsec"
  | .pochven => "pochven"
  | .zarzakh => "zarzakh"
  | .thera => "thera"

/-- The class that a name stands for. -/
def ofLabel? (name : String) : Option SecurityClass :=
  all.find? (·.label == name)

/-- The list of classes leaves none out. -/
theorem mem_all (c : SecurityClass) : c ∈ all := by
  cases c <;> decide

end SecurityClass

end StarFreight
