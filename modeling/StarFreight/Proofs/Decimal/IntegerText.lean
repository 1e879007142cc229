import Mathlib.Data.List.Basic
import StarFreight.Decimal.Digit
/-!
# Decimal — what the text of an integer tells

An integer can be told from its text (`integerText_injective`), and so can two
integers from their texts with a dash between them, though a minus sign is a dash
too (`dashedText_injective`): a minus sign comes first, and no dash comes among
digits.
-/

namespace StarFreight

namespace Decimal

variable {n m k l : Int} {front front' : List Digit} {rest rest' : List Char}

theorem Digit.toChar_injective : Function.Injective Digit.toChar := by
  intro d e h
  have hread := Digit.ofChar?_toChar d
  rw [h, Digit.ofChar?_toChar] at hread
  exact (Option.some.inj hread).symm

theorem dash_not_mem_digitChars (ds : List Digit) : '-' ∉ digitChars ds := by
  intro h
  obtain ⟨d, -, hd⟩ := List.mem_map.mp h
  revert hd
  revert d
  decide

/-- Digits end where a dash stands. -/
theorem digitChars_append_dash
    (h : digitChars front ++ '-' :: rest = digitChars front' ++ '-' :: rest') :
    front = front' ∧ rest = rest' := by
  induction front generalizing front' with
  | nil =>
    cases front' with
    | nil => exact ⟨rfl, List.tail_eq_of_cons_eq h⟩
    | cons e front' =>
      have hdash : '-' = e.toChar := List.head_eq_of_cons_eq h
      exact absurd (hdash ▸ List.mem_cons_self) (dash_not_mem_digitChars [e])
  | cons d front ih =>
    cases front' with
    | nil =>
      have hdash : d.toChar = '-' := List.head_eq_of_cons_eq h
      exact absurd (hdash ▸ List.mem_cons_self) (dash_not_mem_digitChars [d])
    | cons e front' =>
      obtain rfl := Digit.toChar_injective (List.head_eq_of_cons_eq h)
      obtain ⟨rfl, rfl⟩ := ih (List.tail_eq_of_cons_eq h)
      exact ⟨rfl, rfl⟩

theorem digits_injective : Function.Injective digits :=
  Function.LeftInverse.injective ofDigits_digits

theorem digits_ne_nil (n : Nat) : digits n ≠ [] := by
  intro h
  have hzero : n = 0 := by
    rw [← ofDigits_digits n, h]
    rfl
  rw [hzero, digits, if_pos rfl] at h
  cases h

/-- **An integer ends where the next dash stands**, a minus sign apart. -/
theorem integerChars_append_dash
    (h : integerChars n ++ '-' :: rest = integerChars m ++ '-' :: rest') :
    n = m ∧ rest = rest' := by
  unfold integerChars at h
  split at h <;> split at h
  · obtain ⟨hdigits, hrest⟩ := digitChars_append_dash (List.tail_eq_of_cons_eq h)
    have habs := digits_injective hdigits
    exact ⟨by omega, hrest⟩
  · have hnil : [] = digits m.natAbs ∧ _ := digitChars_append_dash h
    exact absurd hnil.1.symm (digits_ne_nil _)
  · have hnil : digits n.natAbs = [] ∧ _ := digitChars_append_dash h
    exact absurd hnil.1 (digits_ne_nil _)
  · obtain ⟨hdigits, hrest⟩ := digitChars_append_dash h
    have habs := digits_injective hdigits
    exact ⟨by omega, hrest⟩

theorem integerChars_injective : Function.Injective integerChars := by
  intro n m h
  have hdash : integerChars n ++ ['-'] = integerChars m ++ ['-'] := by rw [h]
  exact (integerChars_append_dash hdash).1

/-- **An integer can be told from its text.** -/
theorem integerText_injective : Function.Injective integerText :=
  fun _ _ h => integerChars_injective (String.ofList_injective h)

/-- **So can two with a dash between them.** -/
theorem dashedText_injective
    (h : integerText n ++ "-" ++ integerText k = integerText m ++ "-" ++ integerText l) :
    n = m ∧ k = l := by
  have hchars := congrArg String.toList h
  simp only [integerText, String.toList_append, String.toList_ofList, List.append_assoc] at hchars
  obtain ⟨rfl, hrest⟩ := integerChars_append_dash hchars
  exact ⟨rfl, integerChars_injective hrest⟩

end Decimal

end StarFreight
