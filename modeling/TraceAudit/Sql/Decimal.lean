import TraceAudit.Number.Range
import TraceAudit.Text.Blank
import TraceAudit.Text.Cut

/-!
# Decimal literals

A numeric literal is read as its parts, and its exact value is then put in one normal form, so that
`1`, `1.0` and `10e-1` are one number and no digit of a long literal is lost. A literal whose
exponent does not fit sixty-four bits has no normal form.
-/

namespace TraceAudit.Sql

/-- A numeric literal: a sign, digits on either side of a point, and a power of ten. -/
structure Numeral where
  negative : Bool
  whole : List Char
  /-- The digits after the point. -/
  places : List Char
  exponent : Int
  deriving DecidableEq, Repr

/-- The number `± digits · 10 ^ exponent`. -/
structure Decimal where
  negative : Bool
  digits : List Char
  exponent : Int
  deriving DecidableEq, Repr

namespace Decimal

/-- Zero, which has no sign. -/
def zero : Decimal := ⟨false, ['0'], 0⟩

/-- The number that digits stand for. -/
def natOfDigits (digits : List Char) : Nat :=
  digits.foldl (fun n d => 10 * n + (d.toNat - '0'.toNat)) 0

/-- The natural number that a text of digits alone stands for. -/
def nat? (cs : List Char) : Option Nat :=
  if cs.isEmpty || !cs.all Char.isDigit then none else some (natOfDigits cs)

end Decimal

namespace Numeral

/-- The exponent that a text stands for: a sign, if any, and digits. -/
def exponent? : List Char → Option Int
  | '-' :: cs => do IntRange.signed64.holding? (-(← Decimal.nat? cs : Nat))
  | '+' :: cs => do IntRange.signed64.holding? (← Decimal.nat? cs)
  | cs => do IntRange.signed64.holding? (← Decimal.nat? cs)

/-- Whether a literal is negative, and what follows its sign. -/
def splitSign : List Char → Bool × List Char
  | '-' :: cs => (true, cs)
  | '+' :: cs => (false, cs)
  | cs => (false, cs)

/-- The parts of a literal: a sign, digits with a point among them, an exponent after `e`. -/
def ofText? (text : String) : Option Numeral := do
  let (negative, rest) := splitSign (Text.trimChars text.toList)
  let (mantissa, scale) := Text.cutAt (fun c => c == 'e' || c == 'E') rest
  let exponent ← scale.elim (some 0) exponent?
  let (whole, places) := Text.cutAt (· == '.') mantissa
  let places := places.getD []
  if (whole ++ places).isEmpty || !(whole ++ places).all Char.isDigit then none
  else some ⟨negative, whole, places, exponent⟩

end Numeral

namespace Decimal

/-- The normal form of a number: its digits between the first and the last that is not zero, times a
power of ten. -/
def ofNumeral? (n : Numeral) : Option Decimal :=
  let leading := (n.whole ++ n.places).dropWhile (· == '0')
  if leading.isEmpty then some zero
  else do
    let significant := Text.dropEndWhile (· == '0') leading
    let shifted ← IntRange.signed64.holding? (n.exponent - n.places.length)
    let scaled ← IntRange.signed64.holding? (shifted + (leading.length - significant.length : Nat))
    return ⟨n.negative, significant, scaled⟩

/-- The normal form of a literal. -/
def ofText? (text : String) : Option Decimal :=
  (Numeral.ofText? text).bind ofNumeral?

end Decimal
end TraceAudit.Sql
