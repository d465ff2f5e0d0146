import QueryWarden.Bytes.Utf8
import QueryWarden.Text.Numeral

/-!
# Percent encoding

Bytes of a URL written as a percent sign and two hexadecimal digits, and read back.
-/

namespace QueryWarden.Net

open QueryWarden.Text

/-- A byte as a percent sign and two upper-case digits. -/
def percentByte (byte : UInt8) : List Char :=
  '%' :: (paddedHex 2 byte.toNat).map Char.toUpper

/-- The text with the characters of a set, and everything outside printable ASCII, encoded. -/
def percentEncode (set : List Char) (text : List Char) : List Char :=
  text.flatMap fun c =>
    if c.toNat < 32 || 126 < c.toNat || set.contains c then
      (Bytes.encodeCode c.toNat).flatMap percentByte
    else [c]

/-- The bytes of a text with encoded bytes decoded. A percent sign without two hexadecimal digits
stands for itself. -/
def percentDecode : List Char → List UInt8
  | '%' :: a :: b :: text =>
      match hexValue? a, hexValue? b with
      | some high, some low => Bytes.byte (high * 16 + low) :: percentDecode text
      | _, _ => Bytes.byte 37 :: percentDecode (a :: b :: text)
  | c :: text => Bytes.encodeCode c.toNat ++ percentDecode text
  | [] => []

end QueryWarden.Net
