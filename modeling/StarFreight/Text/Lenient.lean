/-!
# Text — bytes read leniently

Bytes that should be a text, read as one. Bytes that stand for characters become
these, and where they do not, one replacement character stands for as many bytes
as could have begun a character, and at least for one. Below 128 every byte is a
character by itself (`lenientChars_ascii`).
-/

namespace StarFreight

namespace Text

/-- How a character that takes more than one byte goes on after the first. -/
structure Continuation where
  /-- How many bytes follow. -/
  count : Nat
  /-- What the first byte gives to the number of the character. -/
  value : Nat
  /-- The lowest that the second byte may be. -/
  low : Nat
  /-- The highest that the second byte may be. -/
  high : Nat
deriving DecidableEq, Repr

/-- How a character goes on after its first byte: not at all after one that
stands for a character alone. None where the byte begins no character. -/
def continuation? (byte : Nat) : Option Continuation :=
  if byte < 128 then some ⟨0, byte, 128, 191⟩
  else if byte < 194 then none
  else if byte < 224 then some ⟨1, byte - 192, 128, 191⟩
  else if byte < 240 then
    some ⟨2, byte - 224, if byte = 224 then 160 else 128, if byte = 237 then 159 else 191⟩
  else if byte < 245 then
    some ⟨3, byte - 240, if byte = 240 then 144 else 128, if byte = 244 then 143 else 191⟩
  else none

namespace Continuation

/-- How many of the bytes that come next go on with a character, and its number
as far as they give it. -/
def extent : Nat → Nat → Nat → Nat → List UInt8 → Nat × Nat
  | 0, value, _, _, _ => (0, value)
  | _, value, _, _, [] => (0, value)
  | count + 1, value, low, high, byte :: bytes =>
    if low ≤ byte.toNat ∧ byte.toNat ≤ high then
      let (taken, value) := extent count (64 * value + (byte.toNat - 128)) 128 191 bytes
      (taken + 1, value)
    else (0, value)

end Continuation

/-- The character in the place of what is none. -/
def replacement : Char := Char.ofNat 0xFFFD

/-- The characters of bytes read leniently. -/
def lenientChars : List UInt8 → List Char
  | [] => []
  | byte :: bytes =>
    match continuation? byte.toNat with
    | none => replacement :: lenientChars bytes
    | some next =>
      let found := Continuation.extent next.count next.value next.low next.high bytes
      let c := if found.1 = next.count then Char.ofNat found.2 else replacement
      c :: lenientChars (bytes.drop found.1)
termination_by bytes => bytes.length

/-- **Bytes that are characters by themselves are read as these.** -/
theorem lenientChars_ascii {bytes : List UInt8} (h : ∀ b ∈ bytes, b.toNat < 128) :
    lenientChars bytes = bytes.map fun b => Char.ofNat b.toNat := by
  induction bytes with
  | nil => simp [lenientChars]
  | cons b bytes ih =>
    have hb : b.toNat < 128 := h b List.mem_cons_self
    have hrest := ih fun c hc => h c (List.mem_cons_of_mem _ hc)
    rw [lenientChars]
    simp [continuation?, hb, Continuation.extent, hrest]

/-- The text of bytes read leniently. -/
def lenient (bytes : List UInt8) : String :=
  String.ofList (lenientChars bytes)

end Text

end StarFreight
