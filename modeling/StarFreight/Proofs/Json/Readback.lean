import Mathlib.Tactic.SplitIfs
import StarFreight.Json.Printer
import StarFreight.Json.Reader
import StarFreight.Proofs.Decimal.IntegerText
/-!
# Json — documents are read back

What is written without any space is read back whole (`parse?_compact`), as long as
its numbers are written as documents write them (`Numeral.Standard`) and every string
in it denotes a text (`Json.Sound`). The tokens come first: a text is read back
through its escapes (`readString?_escapes`), and a numeral through sign, point and
exponent (`readNumeral?_chars`), if what follows does not go on with it (`Closes`).
The rest is an induction over documents, in which a value is read in twice as many
steps as it has characters.
-/

namespace StarFreight

open Decimal

/-- A numeral as documents write it: there are digits before the point, and of several
the first is not zero. -/
structure Numeral.Standard (n : Numeral) : Prop where
  nonempty : n.whole ≠ []
  leading : n.whole.length = 1 ∨ n.whole.head? ≠ some .zero

namespace Json

variable {fuel : Nat} {c : Char} {cs rest behind : List Char} {piece : Piece} {pieces : List Piece}

/-! ## Texts -/

/-- What follows a backslash is read as one piece. -/
theorem readPieces?_escape (hescape : readEscape? cs = some (piece, rest))
    (h : readPieces? fuel rest = some (pieces, behind)) :
    readPieces? (fuel + 1) ('\\' :: cs) = some (piece :: pieces, behind) := by
  simp [readPieces?, hescape, h]

/-- A code unit below 256 is read back from its digits. -/
theorem readEscape?_unit {n : Nat} (hn : n < 256) (rest : List Char) :
    readEscape? ('u' :: '0' :: '0' :: Text.hexDigit (n / 16) :: Text.hexDigit (n % 16) :: rest) =
      some (.char (Char.ofNat n), rest) := by
  have hzero : Text.hexValue? '0' = some 0 := by decide
  have hhigh : Text.hexValue? (Text.hexDigit (n / 16)) = some (n / 16) :=
    Text.hexValue?_hexDigit (by omega)
  have hlow : Text.hexValue? (Text.hexDigit (n % 16)) = some (n % 16) :=
    Text.hexValue?_hexDigit (by omega)
  have hunit : ((0 * 16 + 0) * 16 + n / 16) * 16 + n % 16 = n := by omega
  simp only [readEscape?, readUnit?, hzero, hhigh, hlow, Option.bind_eq_bind, Option.bind_some,
    hunit]
  rw [if_neg (by omega)]

/-- **A character is read back** from what it becomes inside a literal. -/
theorem readPieces?_escapeChar (c : Char) (h : readPieces? fuel rest = some (pieces, behind)) :
    readPieces? (fuel + 1) (escapeChar c ++ rest) = some (.char c :: pieces, behind) := by
  have hnamed : ∀ d : Char, readEscape? (d :: rest) = some (.char c, rest) →
      readPieces? (fuel + 1) (['\\', d] ++ rest) = some (.char c :: pieces, behind) :=
    fun d hd => readPieces?_escape hd h
  unfold escapeChar
  split_ifs with hquote hslash hline hreturn htab hback hform hcontrol
  · subst hquote
    exact hnamed _ rfl
  · subst hslash
    exact hnamed _ rfl
  · subst hline
    exact hnamed _ rfl
  · subst hreturn
    exact hnamed _ rfl
  · subst htab
    exact hnamed _ rfl
  · obtain rfl : c = '\x08' := by rw [← Char.ofNat_toNat c, hback]
    exact hnamed _ rfl
  · obtain rfl : c = '\x0c' := by rw [← Char.ofNat_toNat c, hform]
    exact hnamed _ rfl
  · have hunit := readEscape?_unit (n := c.toNat) (by omega) rest
    rw [Char.ofNat_toNat] at hunit
    exact readPieces?_escape hunit h
  · -- a character that stands for itself is none of those that end or escape
    rw [List.singleton_append, readPieces?.eq_def]
    split <;> simp_all

/-- An escape has at least one character. -/
theorem length_le_length_escapes (cs : List Char) : cs.length ≤ (cs.flatMap escapeChar).length := by
  induction cs with
  | nil => exact Nat.le_refl 0
  | cons c cs ih =>
    have hpos : 0 < (escapeChar c).length := by
      unfold escapeChar
      split_ifs <;> exact Nat.succ_pos _
    rw [List.flatMap_cons, List.length_append, List.length_cons]
    omega

theorem readPieces?_escapes (hfuel : cs.length < fuel) (rest : List Char) :
    readPieces? fuel (cs.flatMap escapeChar ++ '"' :: rest) = some (cs.map .char, rest) := by
  induction cs generalizing fuel with
  | nil =>
    obtain ⟨fuel, rfl⟩ : ∃ k, fuel = k + 1 := Nat.exists_eq_add_one.mpr hfuel
    rfl
  | cons c cs ih =>
    rw [List.length_cons] at hfuel
    obtain ⟨fuel, rfl⟩ : ∃ k, fuel = k + 1 := Nat.exists_eq_add_one.mpr (by omega)
    rw [List.flatMap_cons, List.append_assoc]
    exact readPieces?_escapeChar c (ih (by omega))

theorem joinPieces?_map_char (cs : List Char) : joinPieces? (cs.map .char) = some cs := by
  induction cs with
  | nil => rfl
  | cons c cs ih => rw [List.map_cons, joinPieces?, ih, Option.map_some]

/-- **A text is read back** from its literal. -/
theorem readString?_escapes (s : String) (rest : List Char) :
    readString? (s.toList.flatMap escapeChar ++ '"' :: rest) = some (some s, rest) := by
  have hlength := length_le_length_escapes s.toList
  have hpieces : readPieces? ((s.toList.flatMap escapeChar ++ '"' :: rest).length + 1)
      (s.toList.flatMap escapeChar ++ '"' :: rest) = some (s.toList.map .char, rest) := by
    refine readPieces?_escapes ?_ rest
    rw [List.length_append]
    omega
  simp only [readString?, hpieces, joinPieces?_map_char, Option.bind_eq_bind, Option.bind_some,
    Option.map_some, String.ofList_toList]

/-! ## Numbers -/

/-- What does not go on with a number. -/
def Closes (rest : List Char) : Prop :=
  ∀ c ∈ rest.head?, Digit.ofChar? c = none ∧ c ≠ '.' ∧ c ≠ 'e' ∧ c ≠ 'E'

theorem closes_nil : Closes [] := by
  intro c hc
  cases hc

theorem closes_cons (h : Digit.ofChar? c = none ∧ c ≠ '.' ∧ c ≠ 'e' ∧ c ≠ 'E') :
    Closes (c :: rest) := by
  intro d hd
  obtain rfl := Option.some.inj hd
  exact h

variable {n : Numeral} {ds : List Digit}

/-- Digits are read up to what is none. -/
theorem readDigitRun_digitChars (ds : List Digit)
    (hrest : ∀ c ∈ rest.head?, Digit.ofChar? c = none) :
    readDigitRun (digitChars ds ++ rest) = (ds, rest) := by
  induction ds with
  | nil =>
    cases rest with
    | nil => rfl
    | cons c rest =>
      have hc := hrest c rfl
      simp only [digitChars, List.map_nil, List.nil_append, readDigitRun, hc]
  | cons d ds ih =>
    simp only [digitChars, List.map_cons, List.cons_append, readDigitRun,
      Digit.ofChar?_toChar] at ih ⊢
    rw [ih]

theorem readWhole?_digitChars (hn : n.Standard) (hrest : ∀ c ∈ rest.head?, Digit.ofChar? c = none) :
    readWhole? (digitChars n.whole ++ rest) = some (n.whole, rest) := by
  rw [readWhole?, readDigitRun_digitChars n.whole hrest]
  match hwhole : n.whole, hn.nonempty, hn.leading with
  | [d], _, _ => rfl
  | d :: e :: ds, _, hleading =>
    have hd : d.val ≠ 0 := by
      intro hzero
      rcases hleading with hone | hhead
      · simp at hone
      · exact hhead (congrArg some (Fin.ext hzero))
    simp only [if_neg hd]

/-- The point of a numeral, with the digits behind it. -/
def fractionChars (ds : List Digit) : List Char :=
  if ds.isEmpty then [] else '.' :: digitChars ds

/-- The exponent of a numeral, with its mark. -/
def markedExponent : Option Int → List Char
  | none => []
  | some e => 'e' :: Numeral.exponentChars e

theorem readFraction?_fractionChars (ds : List Digit)
    (hrest : ∀ c ∈ rest.head?, Digit.ofChar? c = none ∧ c ≠ '.') :
    readFraction? (fractionChars ds ++ rest) = some (ds, rest) := by
  cases ds with
  | nil =>
    cases rest with
    | nil => rfl
    | cons c rest =>
      obtain ⟨-, hpoint⟩ := hrest c rfl
      simp only [fractionChars, List.isEmpty_nil, if_true, List.nil_append]
      rw [readFraction?.eq_def]
      split
      · next heq => exact absurd (List.cons.inj heq).1 hpoint
      · rfl
  | cons d ds =>
    have hrun := readDigitRun_digitChars (d :: ds) fun c hc => (hrest c hc).1
    simp only [fractionChars, List.isEmpty_cons, Bool.false_eq_true, if_false, List.cons_append,
      readFraction?, hrun]

/-- The digits of an exponent are read back, under the sign that was read before. -/
theorem readExponentDigits?_digits (negative : Bool) (m : Nat)
    (hrest : ∀ c ∈ rest.head?, Digit.ofChar? c = none) :
    readExponentDigits? negative (digitChars (digits m) ++ rest) =
      some (some (if negative then -(m : Int) else m), rest) := by
  have hvalue := ofDigits_digits m
  rw [readExponentDigits?, readDigitRun_digitChars (digits m) hrest]
  match hdigits : digits m, digits_ne_nil m with
  | d :: ds, _ =>
    rw [hdigits] at hvalue
    simp only [hvalue]

theorem readExponent?_markedExponent (e : Option Int) (hrest : Closes rest) :
    readExponent? (markedExponent e ++ rest) = some (e, rest) := by
  cases e with
  | none =>
    cases rest with
    | nil => rfl
    | cons c rest =>
      obtain ⟨-, -, he, hE⟩ := hrest c rfl
      simp [markedExponent, readExponent?, he, hE]
  | some e =>
    have hread := fun negative => readExponentDigits?_digits negative e.natAbs
      fun c hc => (hrest c hc).1
    by_cases hneg : e < 0
    · have habs : -(e.natAbs : Int) = e := by omega
      have hminus := hread true
      rw [if_pos rfl, habs] at hminus
      simp [markedExponent, Numeral.exponentChars, integerChars, hneg, readExponent?, hminus]
    · have habs : (e.natAbs : Int) = e := by omega
      have hplus := hread false
      rw [if_neg Bool.false_ne_true, habs] at hplus
      simp [markedExponent, Numeral.exponentChars, integerChars, hneg, readExponent?, hplus]

/-- An exponent does not go on with digits, nor with a point. -/
theorem closes_markedExponent (e : Option Int) (hrest : Closes rest) :
    ∀ c ∈ (markedExponent e ++ rest).head?, Digit.ofChar? c = none ∧ c ≠ '.' := by
  cases e with
  | none =>
    intro c hc
    have hclosed := hrest c hc
    exact ⟨hclosed.1, hclosed.2.1⟩
  | some e =>
    intro c hc
    obtain rfl := Option.some.inj hc
    decide

/-- A point does not go on with digits. -/
theorem closes_fractionChars (ds : List Digit)
    (hrest : ∀ c ∈ rest.head?, Digit.ofChar? c = none) :
    ∀ c ∈ (fractionChars ds ++ rest).head?, Digit.ofChar? c = none := by
  cases ds with
  | nil => exact hrest
  | cons d ds =>
    intro c hc
    obtain rfl := Option.some.inj hc
    decide

/-- No digit is a minus sign, so a numeral that starts with one is read as positive. -/
theorem readNumeral?_digit (d : Digit) (cs : List Char) :
    readNumeral? (d.toChar :: cs) = (do
      let (whole, cs) ← readWhole? (d.toChar :: cs)
      let (fraction, cs) ← readFraction? cs
      let (exponent, cs) ← readExponent? cs
      some ({ negative := false, whole, fraction, exponent }, cs)) := by
  have hsign : d.toChar ≠ '-' := by
    revert d
    decide
  rw [readNumeral?]
  intro cs' heq
  exact hsign (List.cons.inj heq).1

/-- **A number is read back** as it was written. -/
theorem readNumeral?_chars (hn : n.Standard) (hrest : Closes rest) :
    readNumeral? (n.chars ++ rest) = some (n, rest) := by
  have hexponent := readExponent?_markedExponent n.exponent hrest
  have hmark := closes_markedExponent n.exponent hrest
  have hfraction := readFraction?_fractionChars n.fraction hmark
  have hwhole := readWhole?_digitChars hn
    (closes_fractionChars n.fraction fun c hc => (hmark c hc).1)
  have hchars : n.chars ++ rest = (if n.negative then ['-'] else []) ++ (digitChars n.whole ++
      (fractionChars n.fraction ++ (markedExponent n.exponent ++ rest))) := by
    have hsplit : n.chars = (if n.negative then ['-'] else []) ++ digitChars n.whole ++
        fractionChars n.fraction ++ markedExponent n.exponent := rfl
    rw [hsplit, List.append_assoc, List.append_assoc, List.append_assoc]
  rw [hchars]
  obtain ⟨negative, whole, fraction, exponent⟩ := n
  dsimp only at hexponent hfraction hwhole ⊢
  cases negative with
  | true =>
    simp only [if_true, List.singleton_append, readNumeral?, hwhole, hfraction, hexponent,
      Option.bind_eq_bind, Option.bind_some]
  | false =>
    match whole, hn.nonempty with
    | d :: ds, _ =>
      simp only [digitChars, List.map_cons, List.cons_append] at hwhole ⊢
      simp only [Bool.false_eq_true, if_false, List.nil_append, readNumeral?_digit, hwhole,
        hfraction, hexponent, Option.bind_eq_bind, Option.bind_some]

/-! ## Documents -/

mutual

/-- A document all of whose numbers are written as documents write them, and all of
whose strings denote a text. -/
def Sound : Json → Prop
  | .number n => n.Standard
  | .unpaired => False
  | .array items => SoundItems items
  | .object members => SoundMembers members
  | _ => True

/-- Items that are all sound. -/
def SoundItems : List Json → Prop
  | [] => True
  | item :: items => item.Sound ∧ SoundItems items

/-- Members whose values are all sound. -/
def SoundMembers : List (String × Json) → Prop
  | [] => True
  | (_, value) :: members => value.Sound ∧ SoundMembers members

end

/-- A character that starts a number. -/
def StartsNumber (c : Char) : Prop :=
  c = '-' ∨ ∃ d : Digit, c = d.toChar

/-- Each kind of value is known by its first character. -/
theorem StartsNumber.ne (h : StartsNumber c) : isGap c = false ∧ c ≠ 'n' ∧ c ≠ 't' ∧ c ≠ 'f' ∧
    c ≠ '"' ∧ c ≠ '[' ∧ c ≠ '{' ∧ c ≠ ']' := by
  rcases h with rfl | ⟨d, rfl⟩
  · decide
  · revert d
    decide

theorem exists_chars_eq (hn : n.Standard) : ∃ c cs, n.chars = c :: cs ∧ StartsNumber c := by
  obtain ⟨negative, whole, fraction, exponent⟩ := n
  cases negative with
  | true => exact ⟨'-', _, rfl, .inl rfl⟩
  | false =>
    match whole, hn.nonempty with
    | d :: ds, _ => exact ⟨d.toChar, _, rfl, .inr ⟨d, rfl⟩⟩

theorem skipGap_cons (h : isGap c = false) (cs : List Char) : skipGap (c :: cs) = c :: cs := by
  simp [skipGap, h]

/-- What starts with a sign or a digit is read as a number. -/
theorem readValue?_number (hc : StartsNumber c) (hn : readNumeral? (c :: cs) = some (n, rest)) :
    readValue? (fuel + 1) (c :: cs) = some (.number n, rest) := by
  obtain ⟨hgap, h⟩ := hc.ne
  unfold readValue?
  rw [skipGap_cons hgap]
  split <;> simp_all

/-- **A document starts with neither a blank nor a closing bracket.** -/
theorem exists_compactChars_eq {doc : Json} (hdoc : doc.Sound) :
    ∃ c cs, doc.compactChars = c :: cs ∧ isGap c = false ∧ c ≠ ']' := by
  cases doc with
  | null => exact ⟨'n', _, rfl, by decide, by decide⟩
  | bool b => cases b <;> exact ⟨_, _, rfl, by decide, by decide⟩
  | number n =>
    obtain ⟨c, cs, hchars, hc⟩ := exists_chars_eq hdoc
    exact ⟨c, cs, hchars, hc.ne.1, hc.ne.2.2.2.2.2.2.2⟩
  | string s => exact ⟨'"', _, rfl, by decide, by decide⟩
  | unpaired => exact absurd hdoc (by simp [Sound])
  | array items => exact ⟨'[', _, rfl, by decide, by decide⟩
  | object members => exact ⟨'{', _, rfl, by decide, by decide⟩

/-- Members that are all kept are kept as they are. -/
theorem mapM_map_some {f : Option String × Json → Option (String × Json)}
    (hf : ∀ key value, f (some key, value) = some (key, value)) (members : List (String × Json)) :
    (members.map fun member => (some member.1, member.2)).mapM f = some members := by
  induction members with
  | nil => rfl
  | cons member members ih =>
    rw [List.map_cons, List.mapM_cons, hf, ih]
    rfl

/-- Members all of whose keys denote a text make an object. -/
theorem objectOf_map_some (members : List (String × Json)) :
    objectOf (members.map fun member => (some member.1, member.2)) = .object members := by
  rw [objectOf, mapM_map_some fun _ _ => rfl]

theorem quote_append (s : String) (rest : List Char) :
    quote s ++ rest = '"' :: (s.toList.flatMap escapeChar ++ '"' :: rest) := by
  simp [quote]

/-- Items start like the first of them. -/
theorem exists_compactItems_eq {item : Json} (hitem : item.Sound) (items : List Json) :
    ∃ c cs, compactItems (item :: items) = c :: cs ∧ isGap c = false ∧ c ≠ ']' := by
  obtain ⟨c, cs, hchars, hc⟩ := exists_compactChars_eq hitem
  cases items with
  | nil => exact ⟨c, cs, hchars, hc⟩
  | cons next items => exact ⟨c, _, by rw [compactItems, hchars, List.cons_append]; simp, hc⟩

theorem readValue?_array {items : List Json} (hgap : isGap c = false) (hc : c ≠ ']')
    (hitems : readItems? fuel (c :: cs) = some (items, rest)) :
    readValue? (fuel + 1) ('[' :: c :: cs) = some (.array items, rest) := by
  have hbracket : skipGap ('[' :: c :: cs) = '[' :: c :: cs := skipGap_cons (by decide) _
  rw [readValue?, hbracket]
  simp only [skipGap_cons hgap]
  split
  · next heq => exact absurd (List.cons.inj heq).1 hc
  · rw [hitems]
    rfl

theorem readValue?_string {s : String} (hs : readString? cs = some (some s, rest)) :
    readValue? (fuel + 1) ('"' :: cs) = some (.string s, rest) := by
  have hquote : skipGap ('"' :: cs) = '"' :: cs := skipGap_cons (by decide) _
  rw [readValue?, hquote]
  simp only [hs, Option.bind_eq_bind, Option.bind_some, Option.elim_some]

theorem readValue?_object {members : List (String × Json)}
    (hmembers : readMembers? fuel ('"' :: cs) =
      some (members.map fun member => (some member.1, member.2), rest)) :
    readValue? (fuel + 1) ('{' :: '"' :: cs) = some (.object members, rest) := by
  have hbrace : skipGap ('{' :: '"' :: cs) = '{' :: '"' :: cs := skipGap_cons (by decide) _
  have hquote : skipGap ('"' :: cs) = '"' :: cs := skipGap_cons (by decide) _
  rw [readValue?, hbrace]
  simp only [hquote]
  split
  · next heq => exact absurd (List.cons.inj heq).1 (by decide)
  · rw [hmembers, Option.bind_eq_bind, Option.bind_some, objectOf_map_some]

/-- The last member is read up to the end of the object. -/
theorem readMembers?_last {key : String} {value : Json}
    (hvalue : readValue? fuel (value.compactChars ++ '}' :: rest) = some (value, '}' :: rest)) :
    readMembers? (fuel + 1) (quote key ++ ':' :: (value.compactChars ++ '}' :: rest)) =
      some ([(some key, value)], rest) := by
  have hkey := readString?_escapes key (':' :: (value.compactChars ++ '}' :: rest))
  have hquote : ∀ cs, skipGap ('"' :: cs) = '"' :: cs := skipGap_cons (by decide)
  have hcolon : ∀ cs, skipGap (':' :: cs) = ':' :: cs := skipGap_cons (by decide)
  have hbrace : skipGap ('}' :: rest) = '}' :: rest := skipGap_cons (by decide) rest
  rw [quote_append, readMembers?, hquote]
  simp only [hkey, hcolon, hvalue, hbrace, Option.bind_eq_bind, Option.bind_some]

/-- Any other member is read up to a comma, and then the next. -/
theorem readMembers?_next {key : String} {value : Json}
    {members : List (Option String × Json)}
    (hvalue : readValue? fuel (value.compactChars ++ ',' :: rest) = some (value, ',' :: rest))
    (hmembers : readMembers? fuel rest = some (members, behind)) :
    readMembers? (fuel + 1) (quote key ++ ':' :: (value.compactChars ++ ',' :: rest)) =
      some ((some key, value) :: members, behind) := by
  have hkey := readString?_escapes key (':' :: (value.compactChars ++ ',' :: rest))
  have hquote : ∀ cs, skipGap ('"' :: cs) = '"' :: cs := skipGap_cons (by decide)
  have hcolon : ∀ cs, skipGap (':' :: cs) = ':' :: cs := skipGap_cons (by decide)
  have hcomma : skipGap (',' :: rest) = ',' :: rest := skipGap_cons (by decide) rest
  rw [quote_append, readMembers?, hquote]
  simp only [hkey, hcolon, hvalue, hcomma, hmembers, Option.bind_eq_bind, Option.bind_some]

theorem compactItems_cons_cons (item next : Json) (items : List Json) :
    compactItems (item :: next :: items) =
      compactChars item ++ ',' :: compactItems (next :: items) := by
  simp [compactItems]

theorem compactMembers_cons_cons (member next : String × Json) (members : List (String × Json)) :
    compactMembers (member :: next :: members) = quote member.1 ++
      ':' :: (compactChars member.2 ++ ',' :: compactMembers (next :: members)) := by
  simp [compactMembers]

/-- Members start with the quote of a key. -/
theorem exists_compactMembers_eq (key : String) (value : Json) (members : List (String × Json)) :
    ∃ cs, compactMembers ((key, value) :: members) = '"' :: cs := by
  cases members with
  | nil => exact ⟨_, rfl⟩
  | cons next members => exact ⟨_, by rw [compactMembers_cons_cons]; rfl⟩

mutual

/-- A document is read in twice as many steps as it has characters. -/
theorem readValue?_compactChars : ∀ (doc : Json) (fuel : Nat) (rest : List Char), doc.Sound →
    Closes rest → 2 * doc.compactChars.length ≤ fuel →
      readValue? fuel (doc.compactChars ++ rest) = some (doc, rest)
  | .null, fuel + 1, rest, _, _, _ => rfl
  | .bool true, fuel + 1, rest, _, _, _ => rfl
  | .bool false, fuel + 1, rest, _, _, _ => rfl
  | .number n, fuel + 1, rest, hn, hrest, _ => by
    obtain ⟨c, cs, hchars, hc⟩ := exists_chars_eq hn
    have hread := readNumeral?_chars hn hrest
    rw [hchars, List.cons_append] at hread
    rw [compactChars, hchars, List.cons_append]
    exact readValue?_number hc hread
  | .string s, fuel + 1, rest, _, _, _ => by
    have hread := readString?_escapes s rest
    rw [compactChars, quote_append]
    exact readValue?_string hread
  | .array [], fuel + 1, rest, _, _, _ => rfl
  | .array (item :: items), fuel + 1, rest, hdoc, _, hfuel => by
    obtain ⟨hitem, hitems⟩ : item.Sound ∧ SoundItems items := hdoc
    obtain ⟨c, cs, hchars, hgap, hc⟩ := exists_compactItems_eq hitem items
    rw [compactChars, List.length_append, List.length_cons, List.length_singleton] at hfuel
    have hread := readItems?_compactItems item items fuel rest hitem hitems (by omega)
    rw [hchars, List.cons_append] at hread
    rw [compactChars, hchars, List.cons_append, List.cons_append, List.append_assoc]
    exact readValue?_array hgap hc hread
  | .object [], fuel + 1, rest, _, _, _ => rfl
  | .object ((key, value) :: members), fuel + 1, rest, hdoc, _, hfuel => by
    obtain ⟨hvalue, hmembers⟩ : value.Sound ∧ SoundMembers members := hdoc
    rw [compactChars, List.length_append, List.length_cons, List.length_singleton] at hfuel
    have hread := readMembers?_compactMembers key value members fuel rest hvalue hmembers (by omega)
    obtain ⟨cs, hchars⟩ := exists_compactMembers_eq key value members
    rw [hchars, List.cons_append] at hread
    rw [compactChars, hchars, List.cons_append, List.cons_append, List.append_assoc]
    exact readValue?_object hread
  | doc, 0, rest, hdoc, _, hfuel => by
    obtain ⟨c, cs, hchars, -⟩ := exists_compactChars_eq hdoc
    rw [hchars, List.length_cons] at hfuel
    omega

theorem readItems?_compactItems : ∀ (item : Json) (items : List Json) (fuel : Nat)
    (rest : List Char), item.Sound → SoundItems items →
      2 * (compactItems (item :: items)).length < fuel →
        readItems? fuel (compactItems (item :: items) ++ ']' :: rest) = some (item :: items, rest)
  | item, [], fuel + 1, rest, hitem, _, hfuel => by
    have hread := readValue?_compactChars item fuel (']' :: rest) hitem (closes_cons (by decide))
      (by rw [compactItems] at hfuel; omega)
    rw [readItems?, compactItems, hread]
    rfl
  | item, next :: items, fuel + 1, rest, hitem, hitems, hfuel => by
    simp only [compactItems, List.length_append, List.length_cons] at hfuel
    have hread := readValue?_compactChars item fuel
      (',' :: (compactItems (next :: items) ++ ']' :: rest)) hitem (closes_cons (by decide))
      (by omega)
    have hreads := readItems?_compactItems next items fuel rest hitems.1 hitems.2 (by omega)
    have hcomma : skipGap (',' :: (compactItems (next :: items) ++ ']' :: rest)) =
        ',' :: (compactItems (next :: items) ++ ']' :: rest) := skipGap_cons (by decide) _
    rw [readItems?, compactItems_cons_cons, List.append_assoc, List.cons_append, hread]
    simp only [Option.bind_eq_bind, Option.bind_some, hcomma, hreads]
  | _, _, 0, _, _, _, hfuel => by omega

theorem readMembers?_compactMembers : ∀ (key : String) (value : Json)
    (members : List (String × Json)) (fuel : Nat) (rest : List Char), value.Sound →
      SoundMembers members → 2 * (compactMembers ((key, value) :: members)).length < fuel →
        readMembers? fuel (compactMembers ((key, value) :: members) ++ '}' :: rest) =
          some (((key, value) :: members).map fun member => (some member.1, member.2), rest)
  | key, value, [], fuel + 1, rest, hvalue, _, hfuel => by
    rw [compactMembers, List.length_append, List.length_cons] at hfuel
    have hread := readValue?_compactChars value fuel ('}' :: rest) hvalue (closes_cons (by decide))
      (by omega)
    rw [compactMembers, List.append_assoc, List.cons_append]
    exact readMembers?_last hread
  | key, value, (next, other) :: members, fuel + 1, rest, hvalue, hmembers, hfuel => by
    simp only [compactMembers_cons_cons, List.length_append, List.length_cons] at hfuel
    have hread := readValue?_compactChars value fuel
      (',' :: (compactMembers ((next, other) :: members) ++ '}' :: rest)) hvalue
      (closes_cons (by decide)) (by omega)
    have hreads := readMembers?_compactMembers next other members fuel rest hmembers.1 hmembers.2
      (by omega)
    rw [compactMembers_cons_cons, List.append_assoc, List.cons_append, List.append_assoc]
    exact readMembers?_next hread hreads
  | _, _, _, 0, _, _, _, hfuel => by omega

end

/-- **A sound document is read back** from what is written of it without any space. -/
theorem parse?_compact {doc : Json} (h : doc.Sound) : parse? doc.compact = some doc := by
  have hread := readValue?_compactChars doc (2 * doc.compactChars.length + 2) [] h closes_nil
    (by omega)
  rw [List.append_nil] at hread
  rw [parse?, compact, String.toList_ofList, parseChars?, hread]
  rfl

end Json

end StarFreight
