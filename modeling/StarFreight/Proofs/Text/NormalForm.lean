import Mathlib.Data.List.Chain
import Mathlib.Data.List.DropRight
import StarFreight.Proofs.Text.SmallLetters
/-!
# Text — the normal form of a name

A name in normal form is words of small characters with single spaces between them
(`NormalForm`). Normalizing gives such a form (`normalForm_normalizeChars`) and leaves
it as it is (`NormalForm.normalizeChars_eq`), so to normalize again changes nothing; nor
does it change what stands in front of a mark in a normal form, once the blanks around
that are gone (`NormalForm.trimChars`).
-/

namespace StarFreight

namespace Text

variable {c d : Char} {cs front rest before : List Char}

/-! ## Words with single spaces -/

/-- A text of words with a single space between any two. -/
inductive Spaced : List Char → Prop
  | nil : Spaced []
  | letter {c : Char} {cs : List Char} : isBlank c = false → Spaced cs → Spaced (c :: cs)
  | space {c : Char} {cs : List Char} : isBlank c = false → Spaced cs → cs ≠ [] →
    Spaced (c :: ' ' :: cs)

/-- A text without a blank at either end or beside another. -/
structure Unpadded (cs : List Char) : Prop where
  head : ∀ c ∈ cs.head?, isBlank c = false
  last : ∀ c ∈ cs.getLast?, isBlank c = false
  single : cs.IsChain fun a b => isBlank a = false ∨ isBlank b = false

namespace Spaced

theorem head (h : Spaced cs) (hc : c ∈ cs.head?) : isBlank c = false := by
  cases h with
  | nil => cases hc
  | letter hd _ => exact Option.some.inj hc ▸ hd
  | space hd _ _ => exact Option.some.inj hc ▸ hd

/-- Letters may be put in front. -/
theorem append (hfront : ∀ c ∈ front, isBlank c = false) (h : Spaced cs) :
    Spaced (front ++ cs) := by
  induction front with
  | nil => exact h
  | cons c front ih =>
    exact .letter (hfront c List.mem_cons_self)
      (ih fun d hd => hfront d (List.mem_cons_of_mem c hd))

/-- So may a word with a space behind it. -/
theorem append_space (hfront : ∀ c ∈ front, isBlank c = false) (hne : front ≠ [])
    (h : Spaced cs) (hcs : cs ≠ []) : Spaced (front ++ ' ' :: cs) := by
  induction front with
  | nil => exact absurd rfl hne
  | cons c front ih =>
    have hc := hfront c List.mem_cons_self
    cases front with
    | nil => exact .space hc h hcs
    | cons d front =>
      exact .letter hc (ih (fun e he => hfront e (List.mem_cons_of_mem c he))
        (List.cons_ne_nil d front))

/-- What comes after a letter may be cut off. -/
theorem upto (h : Spaced (front ++ c :: rest)) (hc : isBlank c = false) :
    Spaced (front ++ [c]) := by
  generalize hcs : front ++ c :: rest = cs at h
  induction h generalizing front with
  | nil => cases front <;> cases hcs
  | letter hd _ ih =>
    cases front with
    | nil => exact .letter hc .nil
    | cons e front =>
      obtain ⟨rfl, hrest⟩ := List.cons.inj hcs
      exact .letter hd (ih hrest)
  | space hd _ _ ih =>
    cases front with
    | nil => exact .letter hc .nil
    | cons e front =>
      obtain ⟨rfl, hrest⟩ := List.cons.inj hcs
      cases front with
      | nil =>
        -- the letter cannot be the space
        obtain ⟨rfl, -⟩ := List.cons.inj hrest
        exact absurd hc (by decide)
      | cons e front =>
        obtain ⟨rfl, hbehind⟩ := List.cons.inj hrest
        exact .space hd (ih hbehind) (List.append_ne_nil_of_right_ne_nil _ (List.cons_ne_nil _ _))

/-- What comes before a place may be cut out, without the blanks around it. -/
theorem trimChars (h : Spaced (front ++ rest)) : Spaced (trimChars front) := by
  have hhead : front.dropWhile isBlank = front := by
    cases front with
    | nil => rfl
    | cons c front => exact List.dropWhile_cons_of_neg (by simp [h.head (c := c) rfl])
  rw [Text.trimChars, hhead]
  change Spaced (front.rdropWhile isBlank)
  clear hhead
  -- what is cut off at the end comes to what stands behind the place
  induction front using List.reverseRecOn generalizing rest with
  | nil => exact .nil
  | append_singleton front c ih =>
    rw [List.append_assoc, List.singleton_append] at h
    cases hc : isBlank c with
    | true =>
      rw [List.rdropWhile_concat_pos isBlank front c hc]
      exact ih h
    | false =>
      rw [List.rdropWhile_concat_neg isBlank front c (by simp [hc])]
      exact h.upto hc

/-- **Words with single spaces have no blank too many.** -/
theorem unpadded (h : Spaced cs) : Unpadded cs where
  head _ hc := h.head hc
  last := by
    induction h with
    | nil =>
      intro c hc
      cases hc
    | @letter d cs hd _ ih =>
      intro c hc
      cases cs with
      | nil => exact Option.some.inj hc ▸ hd
      | cons e cs => exact ih c (List.getLast?_cons_cons ▸ hc)
    | @space d cs _ _ hne ih =>
      intro c hc
      cases cs with
      | nil => exact absurd rfl hne
      | cons e cs =>
        rw [List.getLast?_cons_cons, List.getLast?_cons_cons] at hc
        exact ih c hc
  single := by
    induction h with
    | nil => exact .nil
    | letter hd _ ih => exact List.isChain_cons.mpr ⟨fun _ _ => .inl hd, ih⟩
    | space hd h _ ih =>
      exact List.isChain_cons_cons.mpr
        ⟨.inl hd, List.isChain_cons.mpr ⟨fun _ hb => .inr (h.head hb), ih⟩⟩

end Spaced

/-! ## The words of a text -/

theorem ne_nil_of_mem_words {w : List Char} (h : w ∈ words cs) : w ≠ [] := by
  induction cs generalizing w with
  | nil => cases h
  | cons c cs ih =>
    cases hc : isBlank c with
    | true => exact ih (words_cons_of_isBlank hc ▸ h)
    | false =>
      cases cs with
      | nil =>
        simp only [words, hc, Bool.false_eq_true, if_false] at h
        rw [List.mem_singleton.mp h]
        exact List.cons_ne_nil c []
      | cons d cs =>
        rw [words_cons_cons hc] at h
        split at h
        · rcases List.mem_cons.mp h with rfl | h
          · exact List.cons_ne_nil c []
          · exact ih h
        · cases hwords : words (d :: cs) with
          | nil =>
            rw [hwords] at h
            rw [List.mem_singleton.mp h]
            exact List.cons_ne_nil c []
          | cons v ws =>
            rw [hwords] at h
            rcases List.mem_cons.mp h with rfl | h
            · exact List.cons_ne_nil c v
            · exact ih (hwords ▸ List.mem_cons_of_mem v h)

theorem collapse_cons_of_isBlank (hc : isBlank c = true) : collapse (c :: cs) = collapse cs := by
  rw [collapse, collapse, words_cons_of_isBlank hc]

theorem collapse_singleton (hc : isBlank c = false) : collapse [c] = [c] := by
  simp [collapse, words, hc]

/-- A letter in front of a letter is part of its word. -/
theorem collapse_cons_cons (hc : isBlank c = false) (hd : isBlank d = false) :
    collapse (c :: d :: cs) = c :: collapse (d :: cs) := by
  rw [collapse, collapse, words_cons_cons hc, if_neg (by simp [hd])]
  cases words (d :: cs) with
  | nil => rfl
  | cons w ws => cases ws <;> rfl

/-- A letter in front of a blank is a word of its own. -/
theorem collapse_cons_blank (hc : isBlank c = false) (hd : isBlank d = true) :
    collapse (c :: d :: cs) = if collapse cs = [] then [c] else c :: ' ' :: collapse cs := by
  rw [collapse, collapse, words_cons_cons hc, if_pos hd, words_cons_of_isBlank hd]
  cases hwords : words cs with
  | nil => simp
  | cons w ws =>
    have hw : w ≠ [] := ne_nil_of_mem_words (hwords ▸ List.mem_cons_self)
    have hne : List.intercalate [' '] (w :: ws) ≠ [] := by
      cases ws <;> simp [hw]
    rw [if_neg hne, List.intercalate_cons_cons]
    rfl

/-- **The words of a text have single spaces between them.** -/
theorem spaced_collapse (cs : List Char) : Spaced (collapse cs) := by
  -- two characters are looked at, so the claim is carried for the text behind either
  suffices key : Spaced (collapse cs) ∧ ∀ c, isBlank c = false → Spaced (collapse (c :: cs)) from
    key.1
  induction cs with
  | nil =>
    refine ⟨.nil, fun c hc => ?_⟩
    rw [collapse_singleton hc]
    exact .letter hc .nil
  | cons d cs ih =>
    obtain ⟨hrest, hletter⟩ := ih
    cases hd : isBlank d with
    | true =>
      constructor
      · rw [collapse_cons_of_isBlank hd]
        exact hrest
      · intro c hc
        rw [collapse_cons_blank hc hd]
        split
        · exact .letter hc .nil
        · next hne => exact .space hc hrest hne
    | false =>
      refine ⟨hletter d hd, fun c hc => ?_⟩
      rw [collapse_cons_cons hc hd]
      exact .letter hc (hletter d hd)

/-- **Words with single spaces between them are left as they are.** -/
theorem Spaced.collapse_eq (h : Spaced cs) : collapse cs = cs := by
  induction h with
  | nil => rfl
  | @letter c cs hc h ih =>
    cases cs with
    | nil => exact collapse_singleton hc
    | cons d cs => rw [collapse_cons_cons hc (h.head rfl), ih]
  | space hc _ hne ih => rw [collapse_cons_blank hc (by decide), ih, if_neg hne]

/-- Lower-casing keeps the words apart. -/
theorem Spaced.lowerFrom (h : Spaced cs) (before : List Char) :
    Spaced (lowerFrom before cs) := by
  have hletters : ∀ {before c after}, isBlank c = false →
      ∀ d ∈ lowerAt before c after, isBlank d = false :=
    fun hc d hd => (isBlank_of_mem_lowerAt hd).trans hc
  induction h generalizing before with
  | nil => exact .nil
  | letter hc _ ih => exact (ih _).append (hletters hc)
  | @space c cs hc _ hne ih =>
    have hspace : Text.lowerFrom (c :: before) (' ' :: cs) =
        ' ' :: Text.lowerFrom (' ' :: c :: before) cs := by
      rw [Text.lowerFrom, lowerAt_of_isSmall (by decide +kernel), List.singleton_append]
    have hlower : Text.lowerFrom (' ' :: c :: before) cs ≠ [] := by
      cases cs with
      | nil => exact absurd rfl hne
      | cons d cs => exact List.append_ne_nil_of_left_ne_nil lowerAt_ne_nil _
    rw [Text.lowerFrom, hspace]
    exact append_space (hletters hc) lowerAt_ne_nil (ih _) hlower

/-! ## Normal forms -/

/-- A name in normal form: words of small characters with single spaces between them. -/
structure NormalForm (cs : List Char) : Prop where
  spaced : Spaced cs
  small : ∀ c ∈ cs, isSmall c = true

/-- **Normalizing gives a normal form.** -/
theorem normalForm_normalizeChars (cs : List Char) : NormalForm (normalizeChars cs) where
  spaced := (spaced_collapse cs).lowerFrom []
  small _ hc := isSmall_of_mem_lowerFrom hc

namespace NormalForm

/-- **And leaves one as it is.** -/
theorem normalizeChars_eq (h : NormalForm cs) : normalizeChars cs = cs := by
  rw [normalizeChars, h.spaced.collapse_eq, lowerChars, lowerFrom_of_isSmall h.small]

/-- What stands in front in a normal form is in normal form without the blanks around it. -/
theorem trimChars (h : NormalForm (front ++ rest)) : NormalForm (trimChars front) where
  spaced := h.spaced.trimChars
  small c hc := by
    have hdropped : c ∈ front.dropWhile isBlank :=
      List.mem_reverse.mp ((List.dropWhile_sublist _).subset (List.mem_reverse.mp hc))
    have hfront : c ∈ front := (List.dropWhile_sublist _).subset hdropped
    exact h.small c (List.mem_append_left rest hfront)

end NormalForm

/-- **To normalize a name again changes nothing.** -/
theorem normalizeName_normalizeName (s : String) :
    normalizeName (normalizeName s) = normalizeName s := by
  rw [normalizeName, normalizeName, String.toList_ofList,
    (normalForm_normalizeChars s.toList).normalizeChars_eq]

/-- What stands before a mark is the front of a text. -/
theorem exists_append_of_before? {mark : Char} {s part : String}
    (h : before? mark s = some part) : ∃ rest, s.toList = part.toList ++ rest := by
  simp only [before?] at h
  split at h
  · rw [← Option.some.inj h, String.toList_ofList]
    exact ⟨_, (List.takeWhile_append_dropWhile (l := s.toList)).symm⟩
  · cases h

/-- Nor does it change the front of a normalized name without the blanks around it. -/
theorem normalizeName_trim_before {mark : Char} {s part : String}
    (h : before? mark (normalizeName s) = some part) : normalizeName (trim part) = trim part := by
  obtain ⟨rest, hrest⟩ := exists_append_of_before? h
  have hform := normalForm_normalizeChars s.toList
  rw [normalizeName, String.toList_ofList] at hrest
  rw [hrest] at hform
  rw [normalizeName, trim, String.toList_ofList, hform.trimChars.normalizeChars_eq]

end Text

end StarFreight
