import StarFreight.Text.Hexadecimal
/-!
# Text — bytes behind percent signs

In an address a percent sign and two hexadecimal digits stand for a byte, and
other characters for their own bytes. A byte that is written in this way is read
back (`decode_encodeByte`).
-/

namespace StarFreight

namespace Text

namespace Percent

/-- A byte as a percent sign and two hexadecimal digits. -/
def encodeByte (byte : UInt8) : List Char :=
  ['%', (hexDigit (byte.toNat / 16)).toUpper, (hexDigit (byte.toNat % 16)).toUpper]

/-- The bytes of a character. -/
def bytesOf (c : Char) : List UInt8 :=
  (String.singleton c).toUTF8.toList

/-- The bytes that characters stand for; a percent sign without two digits behind
it stands for itself. -/
def decode : List Char → List UInt8
  | [] => []
  | '%' :: a :: b :: rest =>
    match hexValue? a, hexValue? b with
    | some high, some low => UInt8.ofNat (16 * high + low) :: decode rest
    | _, _ => bytesOf '%' ++ decode (a :: b :: rest)
  | c :: rest => bytesOf c ++ decode rest

/-- **A byte that is written with a percent sign is read back.** -/
theorem decode_encodeByte (byte : UInt8) (rest : List Char) :
    decode (encodeByte byte ++ rest) = byte :: decode rest := by
  have h : byte.toNat < 256 := byte.toNat_lt
  have hhigh := hexValue?_toUpper_hexDigit (n := byte.toNat / 16) (by omega)
  have hlow := hexValue?_toUpper_hexDigit (n := byte.toNat % 16) (by omega)
  have hbyte : 16 * (byte.toNat / 16) + byte.toNat % 16 = byte.toNat := by omega
  simp [encodeByte, decode, hhigh, hlow, hbyte]

end Percent

end Text

end StarFreight
