import TraceAudit.Text.Utf8
import TraceAudit.Web.Address

/-!
# Percent encoding

Bytes written as a percent sign with two hexadecimal digits. A percent sign without two such digits
stands for itself.
-/

namespace TraceAudit.Web

/-- The digit of a value below sixteen. -/
def hexDigit (n : Nat) : Char :=
  if n < 10 then Char.ofNat (48 + n) else Char.ofNat (55 + n)

/-- A byte as a percent sign and two digits. -/
def percentByte (b : UInt8) : List Char :=
  ['%', hexDigit (b.toNat / 16), hexDigit (b.toNat % 16)]

/-- A text with the bytes of the characters that satisfy `p`, and of all above ASCII, encoded. -/
def percentEncode (p : Char → Bool) (cs : List Char) : List Char :=
  cs.flatMap fun c =>
    if 128 ≤ c.toNat || p c then (Text.encodeUtf8 (String.singleton c)).flatMap percentByte
    else [c]

/-- The value of a byte that is a hexadecimal digit. -/
def hexByte? (b : UInt8) : Option Nat :=
  hexValue? (Char.ofNat b.toNat)

/-- Bytes with the encoded ones decoded. -/
def percentDecode : Bytes → Bytes
  | 37 :: a :: b :: rest =>
      match hexByte? a, hexByte? b with
      | some high, some low => UInt8.ofNat (16 * high + low) :: percentDecode rest
      | _, _ => 37 :: percentDecode (a :: b :: rest)
  | b :: rest => b :: percentDecode rest
  | [] => []
  termination_by bytes => bytes.length

end TraceAudit.Web
