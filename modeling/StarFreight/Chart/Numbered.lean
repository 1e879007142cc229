/-!
# Chart — numbered things

Lists of things that carry numbers, in which only the first of those that share
a number counts. `firstOfEach` keeps these and their order; every number that
occurs is kept once (`pairwise_firstOfEach`, `exists_mem_firstOfEach`).
-/

namespace StarFreight

variable {α : Type} {number : α → Int}

/-- The first of the things that share a number, in order. -/
def firstOfEach (number : α → Int) : List α → List α
  | [] => []
  | a :: as => a :: (firstOfEach number as).filter fun b => number b != number a

/-- Nothing is gained. -/
theorem mem_of_mem_firstOfEach {a : α} {as : List α} (h : a ∈ firstOfEach number as) :
    a ∈ as := by
  induction as with
  | nil => exact h
  | cons b as ih =>
    rcases List.mem_cons.mp h with rfl | h
    · exact List.mem_cons_self
    · exact List.mem_cons_of_mem b (ih (List.mem_filter.mp h).1)

/-- **No number is kept twice.** -/
theorem pairwise_firstOfEach (as : List α) :
    (firstOfEach number as).Pairwise fun a b => number a ≠ number b := by
  induction as with
  | nil => exact List.Pairwise.nil
  | cons a as ih =>
    refine List.pairwise_cons.mpr ⟨fun b hb => ?_, ih.filter _⟩
    have hne : number b ≠ number a := bne_iff_ne.mp (List.mem_filter.mp hb).2
    exact hne.symm

/-- **Every number is kept.** -/
theorem exists_mem_firstOfEach {a : α} {as : List α} (h : a ∈ as) :
    ∃ b ∈ firstOfEach number as, number b = number a := by
  induction as with
  | nil => cases h
  | cons c as ih =>
    rcases List.mem_cons.mp h with rfl | h
    · exact ⟨a, List.mem_cons_self, rfl⟩
    · obtain ⟨b, hb, hba⟩ := ih h
      by_cases hbc : number b = number c
      · exact ⟨c, List.mem_cons_self, hbc ▸ hba⟩
      · exact ⟨b, List.mem_cons_of_mem c (List.mem_filter.mpr ⟨hb, bne_iff_ne.mpr hbc⟩), hba⟩

end StarFreight
