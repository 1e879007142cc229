/-!
# Decimal — powers

The powers of the two bases between which decimals pass: two, in which doubles
are kept, and ten, in which they are written.
-/

namespace StarFreight

namespace Decimal

/-- Two to a power. -/
def twoTo (e : Nat) : Nat :=
  Nat.pow 2 e

/-- Ten to a power. -/
def tenTo (e : Nat) : Nat :=
  Nat.pow 10 e

/-- Ten to the power of nothing. -/
@[simp] theorem tenTo_zero : tenTo 0 = 1 := rfl

/-- One power more is ten times as much. -/
theorem tenTo_succ (e : Nat) : tenTo (e + 1) = tenTo e * 10 := rfl

/-- One power more is twice as much. -/
theorem twoTo_succ (e : Nat) : twoTo (e + 1) = twoTo e * 2 := rfl

end Decimal

end StarFreight
