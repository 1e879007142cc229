import Mathlib.Data.List.Induction
import StarFreight.Config.IdList
import StarFreight.Proofs.Decimal.Numeral
import StarFreight.Proofs.Store.Result
/-!
# Config — what lists of numbers say

A list is what its tokens are. The tokens of two texts with a comma between them are
those of the one and then those of the other (`tokens_append_comma`), and blanks and
commas at either end are in none, so where a comma or an end is, more of them may stand
(`parseIdList_padded`). A list is read when every token writes a 64-bit integer
(`parseIdList_eq_ok_iff`), and is else refused with the first token that writes none
(`parseIdList_eq_error_iff`).
-/

namespace StarFreight

variable {c : Char} {cs front back pad : List Char}

namespace Text

/-! ## Pieces and tokens -/

theorem splitAt_eq_splitOn (mark : Char) (cs : List Char) : splitAt mark cs = cs.splitOn mark := by
  induction cs with
  | nil => rfl
  | cons c cs ih =>
    rw [splitAt, List.splitOn_cons_eq_if_modifyHead, ← ih]
    cases hrest : splitAt mark cs with
    | nil => exact absurd hrest (splitAt_ne_nil mark cs)
    | cons piece pieces => simp

theorem trimChars_cons (h : isBlank c = true) : trimChars (c :: cs) = trimChars cs := by
  rw [trimChars, List.dropWhile_cons_of_pos h, trimChars]

theorem trimChars_append_singleton (h : isBlank c = true) :
    trimChars (cs ++ [c]) = trimChars cs := by
  unfold trimChars
  rw [List.dropWhile_append]
  split
  · next hnone => rw [List.isEmpty_iff.mp hnone, List.dropWhile_cons_of_pos h]; rfl
  · rw [List.reverse_append, List.reverse_singleton, List.singleton_append,
      List.dropWhile_cons_of_pos h]

theorem trimChars_eq_self (h : ∀ c ∈ cs, isBlank c = false) : trimChars cs = cs := by
  have hkept : ∀ {l : List Char}, (∀ c ∈ l, isBlank c = false) → l.dropWhile isBlank = l := by
    intro l hl
    cases l with
    | nil => rfl
    | cons c l => exact List.dropWhile_cons_of_neg (by simp [hl c List.mem_cons_self])
  rw [trimChars, hkept h, hkept fun c hc => h c (List.mem_reverse.mp hc), List.reverse_reverse]

/-- The tokens of a list, in characters. -/
def tokens (cs : List Char) : List (List Char) :=
  ((splitAt ',' cs).map trimChars).filter fun part => !part.isEmpty

@[simp] theorem tokens_nil : tokens [] = [] := rfl

/-- **A comma parts tokens.** -/
theorem tokens_append_comma (front back : List Char) :
    tokens (front ++ ',' :: back) = tokens front ++ tokens back := by
  simp only [tokens, splitAt_eq_splitOn, List.splitOn_append_cons_self, List.map_append,
    List.filter_append]

theorem tokens_of_not_mem (h : ',' ∉ cs) :
    tokens cs = [trimChars cs].filter fun part => !part.isEmpty := by
  rw [tokens, splitAt_eq_splitOn, List.splitOn_eq_singleton h]
  rfl

/-! ## Blanks and commas around tokens -/

/-- What may stand where a comma or an end is. -/
def IsPadding (cs : List Char) : Prop := ∀ c ∈ cs, isBlank c = true ∨ c = ','

theorem not_isBlank_comma : isBlank ',' = false := by decide

theorem ne_comma_of_isBlank (h : isBlank c = true) : c ≠ ',' := by
  rintro rfl
  cases not_isBlank_comma.symm.trans h

theorem tokens_cons_blank (h : isBlank c = true) (cs : List Char) :
    tokens (c :: cs) = tokens cs := by
  unfold tokens
  rw [splitAt, if_neg (ne_comma_of_isBlank h)]
  cases hrest : splitAt ',' cs with
  | nil => exact absurd hrest (splitAt_ne_nil ',' cs)
  | cons piece pieces => simp only [List.map_cons, trimChars_cons h]

theorem tokens_append_blank (h : isBlank c = true) (cs : List Char) :
    tokens (cs ++ [c]) = tokens cs := by
  by_cases hcomma : ',' ∈ cs
  · -- The blank is behind the last comma or in front of it just as well.
    obtain ⟨front, back, rfl⟩ := List.append_of_mem hcomma
    have hshort : back.length < (front ++ ',' :: back).length := by simp; omega
    rw [List.append_assoc, List.cons_append, tokens_append_comma, tokens_append_comma,
      tokens_append_blank h back]
  · have hcomma' : ',' ∉ cs ++ [c] := by simp [hcomma, (ne_comma_of_isBlank h).symm]
    rw [tokens_of_not_mem hcomma, tokens_of_not_mem hcomma', trimChars_append_singleton h]
termination_by cs.length

theorem tokens_padding_append (h : IsPadding pad) (back : List Char) :
    tokens (pad ++ back) = tokens back := by
  induction pad with
  | nil => rfl
  | cons c pad ih =>
    obtain ⟨hc, hpad⟩ := List.forall_mem_cons.mp h
    rcases hc with hc | rfl
    · rw [List.cons_append, tokens_cons_blank hc, ih hpad]
    · have hcomma := tokens_append_comma [] (pad ++ back)
      exact hcomma.trans (ih hpad)

theorem tokens_append_padding (front : List Char) (h : IsPadding pad) :
    tokens (front ++ pad) = tokens front := by
  induction pad using List.reverseRecOn with
  | nil => rw [List.append_nil]
  | append_singleton pad c ih =>
    have hpad : IsPadding pad := fun d hd => h d (List.mem_append_left _ hd)
    rcases h c (List.mem_append_right _ List.mem_cons_self) with hc | rfl
    · rw [← List.append_assoc, tokens_append_blank hc, ih hpad]
    · rw [← List.append_assoc, tokens_append_comma, tokens_nil, List.append_nil, ih hpad]

/-- A place in a text at an end or next to a comma. -/
def IsSeam (front back : List Char) : Prop :=
  front = [] ∨ back = [] ∨ front.getLast? = some ',' ∨ back.head? = some ','

/-- **At an end or next to a comma more blanks and commas change nothing.** -/
theorem tokens_padded (hseam : IsSeam front back) (h : IsPadding pad) :
    tokens (front ++ pad ++ back) = tokens (front ++ back) := by
  rcases hseam with rfl | rfl | hfront | hback
  · exact tokens_padding_append h back
  · rw [List.append_nil, List.append_nil, tokens_append_padding front h]
  · obtain ⟨front, rfl⟩ := List.getLast?_eq_some_iff.mp hfront
    simp only [List.append_assoc, List.cons_append, List.nil_append, tokens_append_comma,
      tokens_padding_append h]
  · obtain ⟨back, rfl⟩ := List.head?_eq_some_iff.mp hback
    rw [tokens_append_comma, tokens_append_comma, tokens_append_padding front h]

end Text

/-! ## Reading -/

/-- Whether a token writes a 64-bit integer. -/
def Denotes (token : String) (n : Int) : Prop :=
  Decimal.WritesInteger n token.toList ∧ -9223372036854775808 ≤ n ∧ n ≤ 9223372036854775807

/-- One token as it is read in a list. -/
def readToken (token : String) : Except String Int :=
  (Decimal.readInteger? token).elim (.error token) .ok

theorem readToken_eq_ok_iff {token : String} {n : Int} :
    readToken token = .ok n ↔ Denotes token n := by
  rw [Denotes, ← Decimal.readInteger?_eq_some_iff, readToken]
  cases Decimal.readInteger? token <;> simp

theorem readToken_eq_error_iff {token fault : String} : readToken token = .error fault ↔
    fault = token ∧ ¬ ∃ n, Denotes token n := by
  simp only [Denotes, ← Decimal.readInteger?_eq_some_iff, readToken]
  cases Decimal.readInteger? token <;> simp [eq_comm]

theorem listTokens_eq (text : String) :
    listTokens text = (Text.tokens text.toList).map String.ofList :=
  rfl

theorem parseIdList_eq (text : String) : parseIdList text = (listTokens text).mapM readToken := by
  refine congrArg (List.mapM · (listTokens text)) (funext fun token => ?_)
  unfold readToken
  cases Decimal.readInteger? token <;> rfl

/-- **A list is read when its tokens are**, one number for each. -/
theorem parseIdList_eq_ok_iff {text : String} {ids : List Int} :
    parseIdList text = .ok ids ↔ List.Forall₂ Denotes (listTokens text) ids := by
  rw [parseIdList_eq, mapM_eq_ok]
  simp only [readToken_eq_ok_iff]

/-- **It is refused with the first token that writes no number.** -/
theorem parseIdList_eq_error_iff {text token : String} : parseIdList text = .error token ↔
    ∃ before after, listTokens text = before ++ token :: after ∧
      (∀ t ∈ before, ∃ n, Denotes t n) ∧ ¬ ∃ n, Denotes token n := by
  simp only [parseIdList_eq, mapM_eq_error, readToken_eq_ok_iff, readToken_eq_error_iff]
  constructor
  · rintro ⟨before, t, after, hsplit, hbefore, rfl, ht⟩
    exact ⟨before, after, hsplit, hbefore, ht⟩
  · rintro ⟨before, after, hsplit, hbefore, ht⟩
    exact ⟨before, token, after, hsplit, hbefore, rfl, ht⟩

theorem parseIdList_padded {front pad back : String} (hseam : Text.IsSeam front.toList back.toList)
    (h : Text.IsPadding pad.toList) :
    parseIdList (front ++ pad ++ back) = parseIdList (front ++ back) := by
  have htokens : listTokens (front ++ pad ++ back) = listTokens (front ++ back) := by
    simp only [listTokens_eq, String.toList_append, Text.tokens_padded hseam h]
  rw [parseIdList, htokens, parseIdList]

end StarFreight
