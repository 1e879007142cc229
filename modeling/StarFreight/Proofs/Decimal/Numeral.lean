import Mathlib.Data.Option.Basic
import StarFreight.Decimal.Reading
import StarFreight.Proofs.Decimal.IntegerText
/-!
# Decimal — which texts write an integer

An integer is written by digits, at least one, with or without a sign in front of
them (`WritesInteger`); so it has many spellings, of which its text is one
(`writesInteger_integerChars`). What is read as a 64-bit integer is what writes one
(`readInteger?_eq_some_iff`).
-/

namespace StarFreight

namespace Decimal

variable {c : Char} {cs : List Char} {ds : List Digit} {n : Int}

/-! ## Digits -/

theorem Digit.ofChar?_eq_some_iff {d : Digit} : ofChar? c = some d ↔ c = d.toChar := by
  constructor
  · intro h
    unfold ofChar? at h
    split at h
    · next hdigit =>
      obtain rfl := Option.some.inj h
      have hcode : 48 + (c.toNat - 48) = c.toNat := by omega
      rw [toChar, hcode, Char.ofNat_toNat]
    · cases h
  · rintro rfl
    exact ofChar?_toChar d

theorem toNat_of_mem_digitChars (h : c ∈ digitChars ds) : 48 ≤ c.toNat ∧ c.toNat < 58 := by
  obtain ⟨d, -, rfl⟩ := List.mem_map.mp h
  clear h
  revert d
  decide

theorem digitsOfChars?_eq_some_iff : digitsOfChars? cs = some ds ↔ cs = digitChars ds := by
  induction cs generalizing ds with
  | nil => cases ds <;> simp [digitsOfChars?, digitChars]
  | cons c cs ih =>
    have hcons : digitsOfChars? (c :: cs) =
        (Digit.ofChar? c).bind fun d => (digitsOfChars? cs).map (d :: ·) := by
      rw [digitsOfChars?, List.mapM_cons]
      cases Digit.ofChar? c with
      | none => rfl
      | some d => exact bind_pure_comp (d :: ·) (digitsOfChars? cs)
    simp only [hcons, Option.bind_eq_some_iff, Option.map_eq_some_iff, ih]
    constructor
    · rintro ⟨d, hd, ds, rfl, rfl⟩
      rw [Digit.ofChar?_eq_some_iff.mp hd]
      rfl
    · intro h
      cases ds with
      | nil => cases h
      | cons d ds =>
        rw [digitChars, List.map_cons, List.cons.injEq] at h
        exact ⟨d, Digit.ofChar?_eq_some_iff.mpr h.1, ds, h.2, rfl⟩

theorem readDigits?_eq_some_iff {k : Nat} :
    readDigits? cs = some k ↔ ∃ ds ≠ [], cs = digitChars ds ∧ ofDigits ds = k := by
  unfold readDigits?
  split
  · next h =>
    rw [List.isEmpty_iff] at h
    subst h
    constructor
    · intro hnone
      cases hnone
    · rintro ⟨ds, hds, hnil, -⟩
      exact absurd (List.map_eq_nil_iff.mp hnil.symm) hds
  · next h =>
    simp only [Option.map_eq_some_iff, digitsOfChars?_eq_some_iff]
    refine exists_congr fun ds => ⟨fun hds => ⟨?_, hds⟩, fun hds => hds.2⟩
    rintro rfl
    exact h (by rw [hds.1]; rfl)

/-! ## Integers -/

/-- What writes an integer: digits, with or without a sign. -/
inductive WritesInteger : Int → List Char → Prop where
  | plain {ds : List Digit} (h : ds ≠ []) : WritesInteger (ofDigits ds) (digitChars ds)
  | plus {ds : List Digit} (h : ds ≠ []) : WritesInteger (ofDigits ds) ('+' :: digitChars ds)
  | minus {ds : List Digit} (h : ds ≠ []) : WritesInteger (-ofDigits ds) ('-' :: digitChars ds)

/-- Digits are no signs. -/
theorem readSigned?_digitChars (ds : List Digit) :
    readSigned? (digitChars ds) = (readDigits? (digitChars ds)).map fun k : Nat => (k : Int) := by
  unfold readSigned?
  split
  · next hds => exact absurd (hds ▸ List.mem_cons_self) (dash_not_mem_digitChars ds)
  · next cs hds =>
    have hplus := toNat_of_mem_digitChars (hds ▸ List.mem_cons_self : '+' ∈ digitChars ds)
    exact absurd hplus (by decide)
  · rfl

theorem readSigned?_eq_some_iff : readSigned? cs = some n ↔ WritesInteger n cs := by
  constructor
  · intro h
    unfold readSigned? at h
    split at h
    all_goals
      obtain ⟨k, hk, rfl⟩ := Option.map_eq_some_iff.mp h
      obtain ⟨ds, hds, rfl, rfl⟩ := readDigits?_eq_some_iff.mp hk
    · exact .minus hds
    · exact .plus hds
    · exact .plain hds
  · intro h
    have hread : ∀ {ds : List Digit}, ds ≠ [] → readDigits? (digitChars ds) = some (ofDigits ds) :=
      fun hds => readDigits?_eq_some_iff.mpr ⟨_, hds, rfl, rfl⟩
    cases h with
    | plain hds => rw [readSigned?_digitChars, hread hds, Option.map_some]
    | plus hds => rw [readSigned?, hread hds, Option.map_some]
    | minus hds => rw [readSigned?, hread hds, Option.map_some]

/-- **What is read as a 64-bit integer writes one.** -/
theorem readInteger?_eq_some_iff {s : String} : readInteger? s = some n ↔
    WritesInteger n s.toList ∧ -9223372036854775808 ≤ n ∧ n ≤ 9223372036854775807 := by
  simp [readInteger?, Option.filter_eq_some_iff, readSigned?_eq_some_iff, fitsInt64]

/-- **The text of an integer writes it.** -/
theorem writesInteger_integerChars (n : Int) : WritesInteger n (integerChars n) := by
  have hdigits : (ofDigits (digits n.natAbs) : Int) = n.natAbs :=
    congrArg _ (ofDigits_digits _)
  unfold integerChars
  split
  · next h =>
    have hn : -(ofDigits (digits n.natAbs) : Int) = n := by omega
    simpa only [hn] using WritesInteger.minus (digits_ne_nil n.natAbs)
  · next h =>
    have hn : (ofDigits (digits n.natAbs) : Int) = n := by omega
    simpa only [hn] using WritesInteger.plain (digits_ne_nil n.natAbs)

/-- What stands in the text of an integer: digits and dashes. -/
theorem of_mem_integerChars (h : c ∈ integerChars n) :
    c = '-' ∨ 48 ≤ c.toNat ∧ c.toNat < 58 := by
  unfold integerChars at h
  split at h
  · exact (List.mem_cons.mp h).imp_right toNat_of_mem_digitChars
  · exact .inr (toNat_of_mem_digitChars h)

end Decimal

end StarFreight
