import TraceAudit.Json.Basic
import TraceAudit.Number.Range
import TraceAudit.Toml.Text

/-!
# TOML: numbers, dates and truth values

A scalar without quotes is a word, which is of a kind as a whole. Reals and dates have no
counterpart in the data that files are read as, and become null.
-/

namespace TraceAudit.Toml

/-- Digits to a base, with single underscores between them; none if the text is anything else. -/
def digits? (isDigit : Char → Bool) (cs : List Char) : Option (List Char) :=
  let groups := Text.pieces (· == '_') cs
  if groups.any (·.isEmpty) || !groups.all (·.all isDigit) then none else some groups.flatten

def isHexDigit (c : Char) : Bool := (Web.hexValue? c).isSome
def isOctalDigit (c : Char) : Bool := '0' ≤ c && c ≤ '7'
def isBinaryDigit (c : Char) : Bool := c == '0' || c == '1'

/-- Decimal digits without a needless zero at their start. -/
def whole? (cs : List Char) : Option Nat := do
  let digits ← digits? Char.isDigit cs
  if digits.length > 1 && digits.head? == some '0' then none else Web.number? 10 digits

/-- Whether a number is negative, and what follows its sign. -/
def splitSign : List Char → Bool × List Char
  | '-' :: cs => (true, cs)
  | '+' :: cs => (false, cs)
  | cs => (false, cs)

/-- The integer that a word is, whether or not it fits sixty-four bits. -/
def integer? (word : List Char) : Option Int :=
  match word with
  | '0' :: 'x' :: cs => do return (← Web.number? 16 (← digits? isHexDigit cs))
  | '0' :: 'o' :: cs => do return (← Web.number? 8 (← digits? isOctalDigit cs))
  | '0' :: 'b' :: cs => do return (← Web.number? 2 (← digits? isBinaryDigit cs))
  | _ => do
      let (negative, cs) := splitSign word
      let n ← whole? cs
      return if negative then -(n : Int) else n

/-- Whether a word is a real number. -/
def isReal (word : List Char) : Bool :=
  let (_, cs) := splitSign word
  let (mantissa, exponent) := Text.cutAt (fun c => c == 'e' || c == 'E') cs
  let (whole, places) := Text.cutAt (· == '.') mantissa
  let exponentFits := match exponent with
    | none => true
    | some e => (digits? Char.isDigit (splitSign e).2).isSome
  let placesFit := match places with
    | none => true
    | some p => (digits? Char.isDigit p).isSome
  cs == ['i', 'n', 'f'] || cs == ['n', 'a', 'n'] ||
    ((whole? whole).isSome && placesFit && exponentFits && (places.isSome || exponent.isSome))

/-! ## Dates -/

/-- Two digits that stand for a number in a range, and the rest. -/
def pair? (low high : Nat) : List Char → Option (Nat × List Char)
  | a :: b :: rest => do
      let n ← if a.isDigit && b.isDigit then Web.number? 10 [a, b] else none
      if low ≤ n && n ≤ high then return (n, rest) else none
  | _ => none

/-- How many days a month has. -/
def daysOf (year month : Nat) : Nat :=
  if month = 2 then
    if year % 4 = 0 ∧ (year % 100 ≠ 0 ∨ year % 400 = 0) then 29 else 28
  else if month = 4 ∨ month = 6 ∨ month = 9 ∨ month = 11 then 30 else 31

/-- What follows a date. -/
def afterDate? (cs : List Char) : Option (List Char) := do
  let (century, cs) ← pair? 0 99 cs
  let (year, cs) ← pair? 0 99 cs
  let '-' :: cs := cs | none
  let (month, cs) ← pair? 1 12 cs
  let '-' :: cs := cs | none
  let (_, cs) ← pair? 1 (daysOf (100 * century + year) month) cs
  return cs

/-- What follows a time of day. -/
def afterTime? (cs : List Char) : Option (List Char) := do
  let (_, cs) ← pair? 0 23 cs
  let ':' :: cs := cs | none
  let (_, cs) ← pair? 0 59 cs
  let ':' :: cs := cs | none
  let (_, cs) ← pair? 0 60 cs
  match cs with
  | '.' :: rest =>
      if (rest.takeWhile Char.isDigit).isEmpty then none else return rest.dropWhile Char.isDigit
  | _ => return cs

/-- Whether a text is empty or the offset of a time. -/
def isOffset : List Char → Bool
  | [] => true
  | ['Z'] => true
  | ['z'] => true
  | sign :: cs =>
      (sign == '+' || sign == '-') &&
        (match pair? 0 23 cs with
        | some (_, ':' :: cs) =>
            match pair? 0 59 cs with
            | some (_, []) => true
            | _ => false
        | _ => false)

/-- Whether a text is a date, a time of day, or both, perhaps with an offset. -/
def isDate (word : List Char) : Bool :=
  match afterDate? word with
  | some [] => true
  | some (mark :: cs) =>
      (mark == 'T' || mark == 't' || mark == ' ') &&
        (match afterTime? cs with
        | some rest => isOffset rest
        | none => false)
  | none => afterTime? word == some []

/-! ## Words -/

/-- Whether a character may stand in a word. -/
def inWord (c : Char) : Bool :=
  c.isAlphanum || c == '_' || c == '+' || c == '-' || c == '.' || c == ':'

/-- The word at the start of a text. A space within a date and a time belongs to it. -/
def word (cs : List Char) : List Char × List Char :=
  let first := cs.takeWhile inWord
  let rest := cs.dropWhile inWord
  match rest with
  | ' ' :: after =>
      let second := after.takeWhile inWord
      if afterDate? first == some [] && (second.head?.any Char.isDigit) then
        (first ++ ' ' :: second, after.dropWhile inWord)
      else (first, rest)
  | _ => (first, rest)

/-- The value of a word. -/
def wordValue? (word : List Char) : Option Json :=
  if word = "true".toList then some (.bool true)
  else if word = "false".toList then some (.bool false)
  else
    match integer? word with
    | some n => (IntRange.signed64.holding? n).map fun n => .number (.integer n)
    | none => if isReal word || isDate word then some .null else none

end TraceAudit.Toml
