/-!
# Chart — ascending numbers

Finite sets of numbers as ascending lists without repetition. `ascending` sorts
any list into one (`pairwise_ascending`) and keeps its members (`mem_ascending`);
`searchBetween` finds a number in one by halving.
-/

namespace StarFreight

/-- Puts a number in its place among ascending numbers, unless it is there. -/
def insertAscending (n : Int) : List Int → List Int
  | [] => [n]
  | m :: ms => if n < m then n :: m :: ms else if n = m then m :: ms else m :: insertAscending n ms

/-- Nothing is lost and nothing but the number is gained. -/
@[simp] theorem mem_insertAscending {n k : Int} {ms : List Int} :
    k ∈ insertAscending n ms ↔ k = n ∨ k ∈ ms := by
  induction ms with
  | nil => simp [insertAscending]
  | cons m ms ih =>
    simp only [insertAscending]
    split
    · simp
    · split
      · next h => subst h; simp
      · simp only [List.mem_cons, ih, or_left_comm]

/-- Ascending numbers stay ascending. -/
theorem pairwise_insertAscending {n : Int} {ms : List Int} (h : ms.Pairwise (· < ·)) :
    (insertAscending n ms).Pairwise (· < ·) := by
  induction ms with
  | nil => simp [insertAscending]
  | cons m ms ih =>
    obtain ⟨hm, hms⟩ := List.pairwise_cons.mp h
    simp only [insertAscending]
    split
    · next hlt =>
      refine List.pairwise_cons.mpr ⟨fun k hk => ?_, h⟩
      rcases List.mem_cons.mp hk with rfl | hk
      · exact hlt
      · exact Int.lt_trans hlt (hm k hk)
    · split
      · exact h
      · refine List.pairwise_cons.mpr ⟨fun k hk => ?_, ih hms⟩
        rcases mem_insertAscending.mp hk with rfl | hk
        · omega
        · exact hm k hk

/-- The numbers of a list, ascending and without repetition. -/
def ascending (ns : List Int) : List Int :=
  ns.foldr insertAscending []

/-- The members are kept. -/
@[simp] theorem mem_ascending {k : Int} {ns : List Int} : k ∈ ascending ns ↔ k ∈ ns := by
  induction ns with
  | nil => simp [ascending]
  | cons n ns ih =>
    have hcons : ascending (n :: ns) = insertAscending n (ascending ns) := rfl
    rw [hcons, mem_insertAscending, ih, List.mem_cons]

/-- The result is ascending. -/
theorem pairwise_ascending (ns : List Int) : (ascending ns).Pairwise (· < ·) := by
  induction ns with
  | nil => exact List.Pairwise.nil
  | cons n ns ih => exact pairwise_insertAscending ih

/-- Whether `n` stands among the ascending numbers from position `low` up to
below `high`, found by halving. -/
def searchBetween (ns : Array Int) (n : Int) (low high : Nat) : Bool :=
  if low < high then
    let middle := (low + high) / 2
    match ns[middle]? with
    | none => false
    | some m =>
      if n < m then searchBetween ns n low middle
      else if m < n then searchBetween ns n (middle + 1) high
      else true
  else false
termination_by high - low
decreasing_by all_goals omega

end StarFreight
