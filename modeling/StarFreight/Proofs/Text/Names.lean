import Mathlib.Data.List.TakeWhile
import StarFreight.Text.Name
/-!
# Text — two ways to compare names

Names are compared by their words in lower case (`normalizeName`), and in tables
also letter by letter but for the case of ASCII letters (`asciiLower`),
after the blanks around what is looked for are gone. The second way is the finer
one: what it takes for the same, the first does too
(`normalizeName_eq_of_asciiLower_eq`). They agree on names that both write the
same way (`PlainName`), such as those in ASCII with single spaces between words.
-/

namespace StarFreight

namespace Text

variable {c : Char} {cs before after : List Char} {s t : String}

/-! ## Blanks -/

theorem words_cons_of_isBlank (h : isBlank c = true) : words (c :: cs) = words cs := by
  cases cs <;> simp [words, h]

/-- A letter makes a word of its own in front of a blank, and else is part of the word
that follows. -/
theorem words_cons_cons {d : Char} (h : isBlank c = false) : words (c :: d :: cs) =
    if isBlank d then [c] :: words (d :: cs) else extendFirst c (words (d :: cs)) := by
  rw [words.eq_def]
  simp [h]

/-- Blanks at the front are in no word. -/
theorem words_dropWhile (cs : List Char) : words (cs.dropWhile isBlank) = words cs := by
  induction cs with
  | nil => rfl
  | cons c cs ih =>
    cases hc : isBlank c with
    | true => rw [List.dropWhile_cons_of_pos hc, ih, words_cons_of_isBlank hc]
    | false => rw [List.dropWhile_cons_of_neg (by simp [hc])]

/-- Blanks alone make no word. -/
theorem words_eq_nil (h : ∀ c ∈ cs, isBlank c = true) : words cs = [] := by
  induction cs with
  | nil => rfl
  | cons c cs ih =>
    rw [words_cons_of_isBlank (h c List.mem_cons_self)]
    exact ih fun d hd => h d (List.mem_cons_of_mem c hd)

/-- Blanks at the end are in no word. -/
theorem words_append_of_blank (h : ∀ c ∈ after, isBlank c = true) :
    words (cs ++ after) = words cs := by
  induction cs with
  | nil => exact words_eq_nil h
  | cons c cs ih =>
    cases hc : isBlank c with
    | true =>
      rw [List.cons_append, words_cons_of_isBlank hc, words_cons_of_isBlank hc, ih]
    | false =>
      cases cs with
      | cons d cs =>
        rw [List.cons_append] at ih
        rw [List.cons_append, List.cons_append, words_cons_cons hc, words_cons_cons hc, ih]
      | nil =>
        -- a blank that comes after a letter ends its word
        cases after with
        | nil => rfl
        | cons b after =>
          have hb := h b List.mem_cons_self
          rw [List.cons_append, List.nil_append, words_cons_cons hc, if_pos hb, words_eq_nil h]
          simp [words, hc]

theorem words_trimChars (cs : List Char) : words (trimChars cs) = words cs := by
  have hblank : ∀ c ∈ ((cs.dropWhile isBlank).reverse.takeWhile isBlank).reverse,
      isBlank c = true := by
    intro c hc
    exact List.mem_takeWhile_imp (List.mem_reverse.mp hc)
  have hsplit : trimChars cs ++ ((cs.dropWhile isBlank).reverse.takeWhile isBlank).reverse =
      cs.dropWhile isBlank := by
    rw [trimChars, ← List.reverse_append, List.takeWhile_append_dropWhile, List.reverse_reverse]
  rw [← words_append_of_blank hblank, hsplit, words_dropWhile]

/-! ## Case -/

/-- The capitals of ASCII. -/
def capitals : List Char :=
  (List.range 26).map fun n => Char.ofNat (65 + n)

theorem mem_capitals (h : c.isUpper = true) : c ∈ capitals := by
  have hle : 65 ≤ c.toNat ∧ c.toNat ≤ 90 := of_decide_eq_true h
  refine List.mem_map.mpr ⟨c.toNat - 65, List.mem_range.mpr (by omega), ?_⟩
  rw [Nat.add_sub_cancel' hle.1, Char.ofNat_toNat]

/-- **What is the same of a capital of ASCII and its small letter is the same of a
character and its small letter.** -/
theorem apply_toLower {β : Type} [DecidableEq β] {f : Char → β}
    (h : (capitals.all fun c => decide (f c.toLower = f c)) = true) (c : Char) :
    f c.toLower = f c := by
  cases hc : c.isUpper with
  | true => exact of_decide_eq_true (List.all_eq_true.mp h c (mem_capitals hc))
  | false =>
    have hself : c.toLower = c := dif_neg (of_decide_eq_false hc)
    rw [hself]

@[simp] theorem isBlank_toLower (c : Char) : isBlank c.toLower = isBlank c :=
  apply_toLower (by decide) c

@[simp] theorem isCaseIgnorable_toLower (c : Char) :
    isCaseIgnorable c.toLower = isCaseIgnorable c :=
  apply_toLower (by decide +kernel) c

@[simp] theorem isCased_toLower (c : Char) : isCased c.toLower = isCased c :=
  apply_toLower (by decide +kernel) c

@[simp] theorem smallLetter_toLower (c : Char) : smallLetter c.toLower = smallLetter c :=
  apply_toLower (by decide) c

/-- A character that capitals of ASCII neither are nor become is the small letter of
itself alone. -/
theorem toLower_eq_iff {d : Char}
    (h : (capitals.all fun c => decide (decide (c.toLower = d) = decide (c = d))) = true) :
    c.toLower = d ↔ c = d := by
  have hsame := apply_toLower (f := fun c => decide (c = d)) h c
  simpa using hsame

theorem meetsCased_map_toLower (cs : List Char) :
    meetsCased (cs.map Char.toLower) = meetsCased cs := by
  induction cs with
  | nil => rfl
  | cons c cs ih =>
    unfold meetsCased at ih ⊢
    rw [List.map_cons]
    cases hc : isCaseIgnorable c with
    | true =>
      rw [List.dropWhile_cons_of_pos (by simpa using hc), List.dropWhile_cons_of_pos hc]
      exact ih
    | false =>
      rw [List.dropWhile_cons_of_neg (by simp [hc]), List.dropWhile_cons_of_neg (by simp [hc])]
      exact isCased_toLower c

theorem isFinalSigma_map_toLower (before after : List Char) :
    isFinalSigma (before.map Char.toLower) (after.map Char.toLower) =
      isFinalSigma before after := by
  rw [isFinalSigma, isFinalSigma, meetsCased_map_toLower, meetsCased_map_toLower]

/-- A character and its surroundings may be in small letters beforehand. -/
theorem lowerAt_toLower (before after : List Char) (c : Char) :
    lowerAt (before.map Char.toLower) c.toLower (after.map Char.toLower) =
      lowerAt before c after := by
  have hsigma : c.toLower = 'Σ' ↔ c = 'Σ' := toLower_eq_iff (by decide)
  have hdotted : c.toLower = 'İ' ↔ c = 'İ' := toLower_eq_iff (by decide)
  by_cases hs : c = 'Σ'
  · rw [lowerAt, lowerAt, if_pos (hsigma.mpr hs), if_pos hs, isFinalSigma_map_toLower]
  · rw [lowerAt, lowerAt, if_neg (hsigma.not.mpr hs), if_neg hs, smallLetter_toLower]
    by_cases hd : c = 'İ'
    · rw [if_pos (hdotted.mpr hd), if_pos hd]
    · rw [if_neg (hdotted.not.mpr hd), if_neg hd]

/-- The lower case is the same if the capitals of ASCII are made small beforehand. -/
theorem lowerFrom_map_toLower (before cs : List Char) :
    lowerFrom (before.map Char.toLower) (cs.map Char.toLower) = lowerFrom before cs := by
  -- what stands before is read backwards and grows at its front
  induction cs generalizing before with
  | nil => rfl
  | cons c cs ih =>
    rw [List.map_cons, lowerFrom, lowerFrom, lowerAt_toLower, ← List.map_cons, ih]

/-- In ASCII the two lower cases are one. -/
theorem lowerFrom_of_ascii (h : ∀ c ∈ cs, c.toNat < 128) (before : List Char) :
    lowerFrom before cs = cs.map Char.toLower := by
  induction cs generalizing before with
  | nil => rfl
  | cons c cs ih =>
    have hc : c.toNat < 128 := h c List.mem_cons_self
    have hsigma : c ≠ 'Σ' := by
      rintro rfl
      exact absurd hc (by decide)
    have hdotted : c ≠ 'İ' := by
      rintro rfl
      exact absurd hc (by decide)
    rw [lowerFrom, lowerAt, if_neg hsigma, if_neg hdotted, smallLetter, if_pos hc,
      ih (fun d hd => h d (List.mem_cons_of_mem c hd)), List.map_cons, List.singleton_append]

/-! ## Names -/

theorem map_extendFirst (f : Char → Char) (c : Char) (ws : List (List Char)) :
    (extendFirst c ws).map (List.map f) = extendFirst (f c) (ws.map (List.map f)) := by
  cases ws <;> rfl

/-- The words of a text in small letters are its words in small letters. -/
theorem words_map_toLower (cs : List Char) :
    words (cs.map Char.toLower) = (words cs).map (List.map Char.toLower) := by
  induction cs with
  | nil => rfl
  | cons c cs ih =>
    rw [List.map_cons]
    cases hc : isBlank c with
    | true => rw [words_cons_of_isBlank (by simpa using hc), words_cons_of_isBlank hc, ih]
    | false =>
      have hlower : isBlank c.toLower = false := by simpa using hc
      cases cs with
      | nil => simp [words, hc]
      | cons d cs =>
        rw [List.map_cons] at ih ⊢
        rw [words_cons_cons hlower, words_cons_cons hc, ih, isBlank_toLower]
        split
        · rfl
        · exact (map_extendFirst _ _ _).symm

theorem collapse_map_toLower (cs : List Char) :
    collapse (cs.map Char.toLower) = (collapse cs).map Char.toLower := by
  rw [collapse, collapse, words_map_toLower]
  induction words cs with
  | nil => rfl
  | cons w ws ih =>
    cases ws with
    | nil => simp
    | cons v ws =>
      simp only [List.map_cons, List.intercalate_cons_cons] at ih ⊢
      rw [ih]
      simp

/-- Names are compared without the blanks around them. -/
theorem normalizeName_trim (s : String) : normalizeName (trim s) = normalizeName s := by
  simp only [normalizeName, normalizeChars, collapse, trim, String.toList_ofList, words_trimChars]

/-- Names are compared whatever the case of ASCII letters. -/
theorem normalizeName_asciiLower (s : String) : normalizeName (asciiLower s) = normalizeName s := by
  simp only [normalizeName, normalizeChars, asciiLower, String.toList_ofList, collapse_map_toLower,
    lowerChars]
  rw [← lowerFrom_map_toLower [] (collapse s.toList)]
  rfl

/-- **What is the same letter by letter is the same name.** -/
theorem normalizeName_eq_of_asciiLower_eq (h : asciiLower s = asciiLower t) :
    normalizeName s = normalizeName t := by
  rw [← normalizeName_asciiLower s, h, normalizeName_asciiLower]

/-- A name that both ways of comparing write the same way. -/
def PlainName (s : String) : Prop :=
  normalizeName s = asciiLower s

instance (s : String) : Decidable (PlainName s) :=
  inferInstanceAs (Decidable (normalizeName s = asciiLower s))

/-- A name in ASCII with single spaces between its words, and none around them, is
plain. -/
theorem plainName_of_ascii (hascii : ∀ c ∈ s.toList, c.toNat < 128)
    (hspaced : collapse s.toList = s.toList) : PlainName s := by
  rw [PlainName, normalizeName, normalizeChars, hspaced, lowerChars, lowerFrom_of_ascii hascii,
    asciiLower]

example : PlainName "Old Man Star" := by decide +kernel

/-- **Of plain names both ways of comparing say the same.** -/
theorem PlainName.asciiLower_eq_iff (hs : PlainName s) (ht : PlainName t) :
    asciiLower s = asciiLower t ↔ normalizeName s = normalizeName t := by
  rw [hs, ht]

end Text

end StarFreight
