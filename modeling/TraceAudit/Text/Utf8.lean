/-!
# UTF-8

Bytes that spell a text, and the two ways to read them back: strictly, where any malformed byte
refuses the whole, and leniently, where each malformed piece becomes one replacement character.
-/

namespace TraceAudit

/-- A sequence of bytes. -/
abbrev Bytes := List UInt8

namespace Text

/-- The bytes that spell a text. -/
def encodeUtf8 (s : String) : Bytes :=
  s.toByteArray.data.toList

/-- The text that the bytes spell, if they are well formed. -/
def decodeUtf8? (bytes : Bytes) : Option String :=
  String.fromUTF8? ⟨bytes.toArray⟩

/-- Reading back what was written gives the text. -/
theorem decodeUtf8?_encodeUtf8 (s : String) : decodeUtf8? (encodeUtf8 s) = some s := by
  have h : (⟨s.toByteArray.data.toList.toArray⟩ : ByteArray) = s.toByteArray := by simp
  unfold decodeUtf8? encodeUtf8
  rw [h]
  unfold String.fromUTF8?
  simp [String.fromUTF8, s.isValidUTF8]

/-- The character that stands for a malformed piece. -/
def replacement : Char := Char.ofNat 0xFFFD

/-- The least and greatest value that the second byte may have, and the number of bytes that
follow the first; none if no character starts with this byte. -/
def leadByte (b : Nat) : Option (Nat × Nat × Nat) :=
  if b < 0x80 then some (0x80, 0xBF, 0)
  else if b < 0xC2 then none
  else if b < 0xE0 then some (0x80, 0xBF, 1)
  else if b == 0xE0 then some (0xA0, 0xBF, 2)
  else if b == 0xED then some (0x80, 0x9F, 2)
  else if b < 0xF0 then some (0x80, 0xBF, 2)
  else if b == 0xF0 then some (0x90, 0xBF, 3)
  else if b < 0xF4 then some (0x80, 0xBF, 3)
  else if b == 0xF4 then some (0x80, 0x8F, 3)
  else none

/-- A character that has been begun: its bits so far, the bounds on the next byte, and how many
bytes are still owed. -/
structure Partial where
  bits : Nat
  low : Nat
  high : Nat
  owed : Nat

/-- The reading of `b` between characters: a finished character, a malformed piece, or a
character begun. -/
def beginChar (b : Nat) : List Char × Option Partial :=
  match leadByte b with
  | none => ([replacement], none)
  | some (_, _, 0) => ([Char.ofNat b], none)
  | some (low, high, owed) =>
      let bits := if owed == 1 then b - 0xC0 else if owed == 2 then b - 0xE0 else b - 0xF0
      ([], some ⟨bits, low, high, owed⟩)

/-- Reads bytes as text, each maximal malformed piece as one replacement character. -/
def decodeLenient : Option Partial → Bytes → List Char
  | none, [] => []
  | some _, [] => [replacement]
  | none, b :: rest =>
      let (done, next) := beginChar b.toNat
      done ++ decodeLenient next rest
  | some p, b :: rest =>
      if p.low ≤ b.toNat && b.toNat ≤ p.high then
        let bits := p.bits * 64 + (b.toNat - 0x80)
        if p.owed ≤ 1 then Char.ofNat bits :: decodeLenient none rest
        else decodeLenient (some ⟨bits, 0x80, 0xBF, p.owed - 1⟩) rest
      else
        let (done, next) := beginChar b.toNat
        replacement :: (done ++ decodeLenient next rest)

/-- The text that the bytes spell, malformed pieces replaced. -/
def decodeUtf8Lenient (bytes : Bytes) : String :=
  (decodeUtf8? bytes).getD (String.ofList (decodeLenient none bytes))

theorem decodeUtf8Lenient_encodeUtf8 (s : String) : decodeUtf8Lenient (encodeUtf8 s) = s := by
  simp [decodeUtf8Lenient, decodeUtf8?_encodeUtf8]

end Text
end TraceAudit
