import StarFreight.Proofs.Text.Names
/-!
# Text — letters that are small already

What lower-casing gives it does not change again: every character of it is small
(`isSmall_of_mem_lowerFrom`), and a text of small characters is its own lower case
wherever it stands (`lowerFrom_of_isSmall`). Nor are blanks made or lost
(`isBlank_of_mem_lowerAt`). Of the table of capitals this asks that no small letter
is a capital of another run, which is settled run against run and not letter by
letter (`CaseRun.avoids`).
-/

namespace StarFreight

namespace Text

variable {c d : Char} {cs before after : List Char} {n : Nat} {run other : CaseRun}

/-! ## The table of capitals -/

/-- The numbers of the characters that are white space. -/
def blankPoints : List Nat :=
  [ 0x09, 0x0A, 0x0B, 0x0C, 0x0D, 0x20, 0x85, 0xA0, 0x1680, 0x2000, 0x2001, 0x2002, 0x2003, 0x2004
  , 0x2005, 0x2006, 0x2007, 0x2008, 0x2009, 0x200A, 0x2028, 0x2029, 0x202F, 0x205F, 0x3000 ]

theorem mem_blankPoints (h : isBlank c = true) : c.toNat ∈ blankPoints := by
  simp only [isBlank, Bool.or_eq_true, Bool.and_eq_true, decide_eq_true_eq, beq_iff_eq] at h
  simp only [blankPoints, List.mem_cons, List.not_mem_nil, or_false]
  omega

/-- Whether some numbers all lie outside two bounds. -/
def allOutside (low high : Nat) (points : List Nat) : Bool :=
  points.all fun point => point < low || high < point

theorem notMem_of_allOutside {low high : Nat} {points : List Nat}
    (h : allOutside low high points = true) (hlow : low ≤ n) (hhigh : n ≤ high) : n ∉ points := by
  intro hmem
  have hout := List.all_eq_true.mp h n hmem
  simp only [Bool.or_eq_true, decide_eq_true_eq] at hout
  omega

namespace CaseRun

/-- The small letter of the first capital of a run. -/
def low (run : CaseRun) : Nat :=
  run.small run.first

/-- The small letter of its last capital. -/
def high (run : CaseRun) : Nat :=
  run.small run.last

/-- Whether the small letters of a run are none of another's capitals: they lie
beside them, or between them. -/
def avoids (run other : CaseRun) : Bool :=
  run.high < other.first || other.last < run.low
    || (other.stride == 2 && (run.stride == 2 || run.first == run.last)
      && (run.low + other.first) % 2 == 1)

/-- Whether the small letters of a run are characters: `k` alone, or beyond ASCII. -/
def givesCharacters (run : CaseRun) : Bool :=
  (run.low == 107 && run.high == 107)
    || (128 ≤ run.low && (run.high < 0xD800 || (0xE000 ≤ run.low && run.high < 0x110000)))

/-- Whether nothing in a table of capitals undoes what a run does. -/
def isSettled (table : List CaseRun) (run : CaseRun) : Bool :=
  0 ≤ Int.ofNat run.first + run.shift && run.givesCharacters && table.all run.avoids
    && allOutside run.first run.last blankPoints
    && allOutside run.low run.high (0x130 :: 0x3A3 :: blankPoints)

/-- What a settled run owes its capitals. -/
structure Settled (table : List CaseRun) (run : CaseRun) (n : Nat) : Prop where
  character : run.small n = 107 ∨ 128 ≤ run.small n
  valid : (run.small n).isValidChar
  kept : ∀ other ∈ table, other.covers (run.small n) = false
  wasNoBlank : n ∉ blankPoints
  plain : run.small n ∉ 0x130 :: 0x3A3 :: blankPoints

theorem covers_iff : run.covers n = true ↔
    run.first ≤ n ∧ n ≤ run.last ∧ (n - run.first) % run.stride = 0 := by
  simp only [covers, Bool.and_eq_true, decide_eq_true_eq, beq_iff_eq, and_assoc]

/-- The small letters of a run lie as far apart as its capitals. -/
theorem small_eq (hshift : 0 ≤ Int.ofNat run.first + run.shift) (h : run.covers n = true) :
    run.small n = run.low + (n - run.first) ∧ run.small n ≤ run.high := by
  obtain ⟨hfirst, hlast, -⟩ := covers_iff.mp h
  simp only [low, high, small, Int.ofNat_eq_natCast] at hshift ⊢
  omega

/-- **No small letter of a run is a capital of one that it avoids.** -/
theorem covers_small_of_avoids (hshift : 0 ≤ Int.ofNat run.first + run.shift)
    (h : run.covers n = true) (havoids : run.avoids other = true) :
    other.covers (run.small n) = false := by
  obtain ⟨hsmall, hhigh⟩ := small_eq hshift h
  obtain ⟨hfirst, hlast, hstep⟩ := covers_iff.mp h
  rw [Bool.eq_false_iff, Ne, covers_iff]
  rintro ⟨hfirst', hlast', hstep'⟩
  simp only [avoids, Bool.or_eq_true, Bool.and_eq_true, decide_eq_true_eq, beq_iff_eq] at havoids
  rcases havoids with (hbelow | habove) | ⟨⟨hother, hrun⟩, hparity⟩
  · omega
  · omega
  · -- steps of two keep the parity, and a single letter has but one
    rw [hother] at hstep'
    rcases hrun with htwo | hsingle
    · rw [htwo] at hstep
      omega
    · omega

theorem settled_of_isSettled {table : List CaseRun} (h : run.isSettled table = true)
    (hn : run.covers n = true) : run.Settled table n := by
  simp only [isSettled, Bool.and_eq_true, decide_eq_true_eq] at h
  obtain ⟨⟨⟨⟨hshift, hgives⟩, havoids⟩, hblank⟩, hplain⟩ := h
  obtain ⟨hsmall, hhigh⟩ := small_eq hshift hn
  obtain ⟨hfirst, hlast, -⟩ := covers_iff.mp hn
  simp only [givesCharacters, Bool.or_eq_true, Bool.and_eq_true, decide_eq_true_eq,
    beq_iff_eq] at hgives
  exact {
    character := by omega
    valid := by
      simp only [Nat.isValidChar]
      omega
    kept := fun other hother =>
      covers_small_of_avoids hshift hn (List.all_eq_true.mp havoids other hother)
    wasNoBlank := notMem_of_allOutside hblank hfirst hlast
    plain := notMem_of_allOutside hplain (by omega) hhigh }

/-- The table of capitals is settled, every run against every other. -/
theorem isSettled_caseRuns : (caseRuns.all (isSettled caseRuns)) = true := by
  decide +kernel

end CaseRun

/-! ## Small characters -/

/-- Whether lower-casing keeps a character wherever it stands. -/
def isSmall (c : Char) : Bool :=
  c != 'Σ' && c != 'İ' && smallLetter c == c

theorem isSmall_iff : isSmall c = true ↔ c ≠ 'Σ' ∧ c ≠ 'İ' ∧ smallLetter c = c := by
  simp only [isSmall, Bool.and_eq_true, bne_iff_ne, beq_iff_eq, and_assoc]

/-- A character beyond ASCII that no run covers is its own small letter. -/
theorem smallLetter_of_uncovered (hwide : 128 ≤ c.toNat)
    (h : ∀ run ∈ caseRuns, run.covers c.toNat = false) : smallLetter c = c := by
  have hnone : caseRuns.find? (·.covers c.toNat) = none :=
    List.find?_eq_none.mpr fun run hrun => by simp [h run hrun]
  rw [smallLetter, if_neg (by omega), hnone]

/-- How a character comes to its small letter. -/
inductive SmallLetterOf (c : Char) : Prop
  | ascii (narrow : c.toNat < 128) (small : smallLetter c = c.toLower)
  | capital (run : CaseRun) (settled : run.Settled caseRuns c.toNat)
      (small : smallLetter c = Char.ofNat (run.small c.toNat))
  | other (wide : 128 ≤ c.toNat) (small : smallLetter c = c)

theorem smallLetterOf (c : Char) : SmallLetterOf c := by
  by_cases hnarrow : c.toNat < 128
  · exact .ascii hnarrow (by rw [smallLetter, if_pos hnarrow])
  · cases hrun : caseRuns.find? (·.covers c.toNat) with
    | none => exact .other (by omega) (by rw [smallLetter, if_neg hnarrow, hrun])
    | some run =>
      have hsettled := List.all_eq_true.mp CaseRun.isSettled_caseRuns run
        (List.mem_of_find?_eq_some hrun)
      have hcovers := List.find?_some hrun
      exact .capital run (CaseRun.settled_of_isSettled hsettled hcovers)
        (by rw [smallLetter, if_neg hnarrow, hrun])

/-- A small letter has the number that its run gives it. -/
theorem CaseRun.Settled.toNat_small (h : run.Settled caseRuns n) :
    (Char.ofNat (run.small n)).toNat = run.small n := by
  rw [Char.ofNat, dif_pos h.valid]
  rfl

/-- **A small letter is small.** -/
theorem isSmall_smallLetter (hsigma : c ≠ 'Σ') (hdotted : c ≠ 'İ') :
    isSmall (smallLetter c) = true := by
  cases smallLetterOf c with
  | ascii narrow small =>
    rw [small]
    cases hupper : c.isUpper with
    | true =>
      have hcapitals : (capitals.all fun c => isSmall c.toLower) = true := by decide +kernel
      exact List.all_eq_true.mp hcapitals c (mem_capitals hupper)
    | false =>
      have hself : c.toLower = c := dif_neg (of_decide_eq_false hupper)
      rw [hself]
      exact isSmall_iff.mpr ⟨hsigma, hdotted, by rw [small, hself]⟩
  | capital run settled small =>
    rw [small]
    rcases settled.character with hk | hwide
    · rw [hk]
      decide +kernel
    · have hplain := settled.plain
      have hnumber := settled.toNat_small
      refine isSmall_iff.mpr ⟨?_, ?_, ?_⟩
      · intro hsame
        rw [hsame] at hnumber
        exact hplain (hnumber ▸ List.mem_cons_of_mem _ List.mem_cons_self)
      · intro hsame
        rw [hsame] at hnumber
        exact hplain (hnumber ▸ List.mem_cons_self)
      · exact smallLetter_of_uncovered (by omega) (by rw [hnumber]; exact settled.kept)
  | other wide small =>
    rw [small]
    exact isSmall_iff.mpr ⟨hsigma, hdotted, small⟩

/-- **Lower-casing neither makes nor loses a blank.** -/
theorem isBlank_smallLetter (c : Char) : isBlank (smallLetter c) = isBlank c := by
  cases smallLetterOf c with
  | ascii narrow small => rw [small, isBlank_toLower]
  | capital run settled small =>
    have hwas : isBlank c = false := by
      rw [Bool.eq_false_iff]
      exact fun h => settled.wasNoBlank (mem_blankPoints h)
    have his : isBlank (Char.ofNat (run.small c.toNat)) = false := by
      rw [Bool.eq_false_iff]
      intro h
      have hmem := mem_blankPoints h
      rw [settled.toNat_small] at hmem
      exact settled.plain (List.mem_cons_of_mem _ (List.mem_cons_of_mem _ hmem))
    rw [small, his, hwas]
  | other wide small => rw [small]

/-! ## Texts -/

theorem isSmall_of_mem_lowerAt (h : d ∈ lowerAt before c after) : isSmall d = true := by
  unfold lowerAt at h
  split at h
  · rcases List.mem_singleton.mp h with rfl
    split <;> decide +kernel
  · next hsigma =>
    split at h
    · rcases List.mem_cons.mp h with rfl | h
      · decide +kernel
      · rcases List.mem_singleton.mp h with rfl
        decide +kernel
    · next hdotted =>
      rcases List.mem_singleton.mp h with rfl
      exact isSmall_smallLetter hsigma hdotted

theorem isBlank_of_mem_lowerAt (h : d ∈ lowerAt before c after) : isBlank d = isBlank c := by
  unfold lowerAt at h
  split at h
  · next hsigma =>
    rcases List.mem_singleton.mp h with rfl
    rw [hsigma]
    split <;> decide
  · split at h
    · next hdotted =>
      rw [hdotted]
      rcases List.mem_cons.mp h with rfl | h
      · decide
      · rcases List.mem_singleton.mp h with rfl
        decide
    · rcases List.mem_singleton.mp h with rfl
      exact isBlank_smallLetter c

theorem lowerAt_ne_nil : lowerAt before c after ≠ [] := by
  unfold lowerAt
  split
  · exact List.cons_ne_nil _ _
  · split <;> exact List.cons_ne_nil _ _

theorem lowerAt_of_isSmall (h : isSmall c = true) : lowerAt before c after = [c] := by
  obtain ⟨hsigma, hdotted, hsmall⟩ := isSmall_iff.mp h
  rw [lowerAt, if_neg hsigma, if_neg hdotted, hsmall]

/-- **Every character of a lower case is small.** -/
theorem isSmall_of_mem_lowerFrom (h : d ∈ lowerFrom before cs) : isSmall d = true := by
  induction cs generalizing before with
  | nil => cases h
  | cons c cs ih =>
    rcases List.mem_append.mp h with h | h
    · exact isSmall_of_mem_lowerAt h
    · exact ih h

/-- **A text of small characters is its own lower case**, whatever stands before it. -/
theorem lowerFrom_of_isSmall (h : ∀ c ∈ cs, isSmall c = true) : lowerFrom before cs = cs := by
  induction cs generalizing before with
  | nil => rfl
  | cons c cs ih =>
    rw [lowerFrom, lowerAt_of_isSmall (h c List.mem_cons_self),
      ih fun d hd => h d (List.mem_cons_of_mem c hd), List.singleton_append]

end Text

end StarFreight
