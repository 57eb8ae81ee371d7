import TraceAudit.Json.Basic
import TraceAudit.Number.Range

/-!
# JSON tokens

The lexical half of reading JSON: a text is cut into punctuation, words, numbers and strings.
Blanks between tokens are space, tab, line feed and carriage return.
-/

namespace TraceAudit.Json

inductive Token where
  | openBrace
  | closeBrace
  | openBracket
  | closeBracket
  | colon
  | comma
  | null
  | bool (value : Bool)
  | number (value : Number)
  | string (value : String)
  deriving DecidableEq, Repr

/-! ## Numbers -/

/-- The greatest significand that digits are gathered into. -/
def maxSignificand : Nat := 18446744073709551615

/-- The greatest exponent that is told apart from a greater one. -/
def maxDecimalExponent : Nat := 2147483647

/-- The value of a decimal digit. -/
def digitValue (c : Char) : Nat := c.toNat - '0'.toNat

/-- Gathers digits while they fit below the greatest significand; also how many were taken. -/
def gather : Nat → Nat → List Char → Nat × Nat
  | significand, taken, [] => (significand, taken)
  | significand, taken, d :: rest =>
      let next := significand * 10 + digitValue d
      if next ≤ maxSignificand then gather next (taken + 1) rest else (significand, taken)

/-- Scales a magnitude by a power of ten, in steps of at most `10 ^ 308`, each rounded. -/
def scaleByTen : Nat → Nat × Int → Int → Option (Nat × Int)
  | 0, x, _ => some x
  | steps + 1, x, exponent =>
      if exponent.natAbs ≤ 308 then do
        let power ← Binary64.powerOfTen exponent.natAbs
        if exponent < 0 then Binary64.div x power else Binary64.mul x power
      else if x.1 == 0 then some x
      else if 0 < exponent then none
      else do
        let power ← Binary64.powerOfTen 308
        let y ← Binary64.div x power
        scaleByTen steps y (exponent + 308)

/-- The real `±significand · 10 ^ exponent`; none if it is too large. -/
def realOfParts (negative : Bool) (significand : Nat) (exponent : Int) : Option Number := do
  let x ← Binary64.ofNat significand
  let (m, e) ← scaleByTen (exponent.natAbs / 308 + 2) x exponent
  return .real ⟨negative, m, e⟩

/-- An integer that fits in sixty-four bits, or the real nearest to it. Minus zero is a real. -/
def integerOfParts (negative : Bool) (n : Nat) : Option Number :=
  if negative then
    if n = 0 then realOfParts true n 0
    else ((IntRange.signed64.holding? (-n)).map .integer).or (realOfParts true n 0)
  else some (.integer n)

/-- The text of a number, cut into its parts. -/
structure Numeral where
  negative : Bool
  whole : List Char
  places : List Char
  exponent : Option (Bool × List Char)
  deriving DecidableEq, Repr

/-- The value of a numeral: digits beyond the greatest significand count only by their place. -/
def Numeral.value? (n : Numeral) : Option Number :=
  let (significand, taken) := gather 0 0 n.whole
  let dropped := n.whole.length - taken
  if dropped == 0 && n.places.isEmpty && n.exponent.isNone then
    integerOfParts n.negative significand
  else
    let (significand, placesTaken) := gather significand 0 n.places
    let scale : Int := (dropped : Int) - placesTaken
    match n.exponent with
    | none => realOfParts n.negative significand scale
    | some (down, digits) =>
        let e := digits.foldl
          (fun acc d => min (acc * 10 + digitValue d) (maxDecimalExponent + 1)) 0
        if maxDecimalExponent < e then
          if significand == 0 || down then some (.real (Binary64.zero n.negative)) else none
        else
          realOfParts n.negative significand (if down then scale - e else scale + e)

/-- Splits a text at the end of its leading digits. -/
def spanDigits (cs : List Char) : List Char × List Char :=
  cs.span Char.isDigit

/-- The exponent at the start of a text, if it has one; none if it has no digits. -/
def scanExponent (cs : List Char) : Option (Option (Bool × List Char) × List Char) :=
  match cs with
  | c :: rest =>
      if c == 'e' || c == 'E' then
        let (down, rest) := match rest with
          | '+' :: rest => (false, rest)
          | '-' :: rest => (true, rest)
          | rest => (false, rest)
        match spanDigits rest with
        | ([], _) => none
        | (digits, rest) => some (some (down, digits), rest)
      else some (none, cs)
  | [] => some (none, cs)

/-- The decimal places at the start of a text, if it has some; none if the point stands alone. -/
def scanPlaces (cs : List Char) : Option (List Char × List Char) :=
  match cs with
  | '.' :: rest =>
      match spanDigits rest with
      | ([], _) => none
      | (digits, rest) => some (digits, rest)
  | _ => some ([], cs)

/-- The number at the start of a text. A whole part of several digits does not start with 0. -/
def scanNumber (cs : List Char) : Option (Number × List Char) := do
  let (negative, cs) := match cs with
    | '-' :: rest => (true, rest)
    | _ => (false, cs)
  let (whole, cs) := spanDigits cs
  guard (!whole.isEmpty && (whole.length == 1 || whole.head? != some '0'))
  let (places, cs) ← scanPlaces cs
  let (exponent, cs) ← scanExponent cs
  let value ← Numeral.value? ⟨negative, whole, places, exponent⟩
  return (value, cs)

/-! ## Strings -/

/-- The value of a hexadecimal digit. -/
def hexValue? (c : Char) : Option Nat :=
  if c.isDigit then some (c.toNat - '0'.toNat)
  else if 'a' ≤ c ∧ c ≤ 'f' then some (c.toNat - 'a'.toNat + 10)
  else if 'A' ≤ c ∧ c ≤ 'F' then some (c.toNat - 'A'.toNat + 10)
  else none

/-- The number written by four hexadecimal digits. -/
def hex4? (a b c d : Char) : Option Nat := do
  let a ← hexValue? a
  let b ← hexValue? b
  let c ← hexValue? c
  let d ← hexValue? d
  return ((a * 16 + b) * 16 + c) * 16 + d

/-- The character that a one-letter escape stands for. -/
def escaped? (c : Char) : Option Char :=
  match c with
  | '"' => some '"'
  | '\\' => some '\\'
  | '/' => some '/'
  | 'b' => some (Char.ofNat 8)
  | 'f' => some (Char.ofNat 12)
  | 'n' => some '\n'
  | 'r' => some '\r'
  | 't' => some '\t'
  | _ => none

/-- The rest of a string after its opening quote, `done` holding what was read, last first. A
surrogate must be one of a pair, and no control character stands bare. -/
def scanString (done : List Char) : List Char → Option (String × List Char)
  | '"' :: rest => some (String.ofList done.reverse, rest)
  | '\\' :: 'u' :: a :: b :: c :: d :: rest =>
      match hex4? a b c d with
      | none => none
      | some n =>
          if n < 0xD800 || 0xE000 ≤ n then scanString (Char.ofNat n :: done) rest
          else if 0xDC00 ≤ n then none
          else match rest with
            | '\\' :: 'u' :: a :: b :: c :: d :: rest =>
                match hex4? a b c d with
                | none => none
                | some m =>
                    if 0xDC00 ≤ m && m < 0xE000 then
                      let code := 0x10000 + (n - 0xD800) * 1024 + (m - 0xDC00)
                      scanString (Char.ofNat code :: done) rest
                    else none
            | _ => none
  | '\\' :: c :: rest =>
      match escaped? c with
      | some e => scanString (e :: done) rest
      | none => none
  | c :: rest => if c.toNat < 0x20 || c == '\\' then none else scanString (c :: done) rest
  | [] => none

/-! ## Texts -/

/-- Whether a character separates tokens. -/
def isSpace (c : Char) : Bool :=
  c == ' ' || c == '\t' || c == '\n' || c == '\r'

/-- The token at the start of a text that does not start with a blank. -/
def scanToken : List Char → Option (Token × List Char)
  | '{' :: rest => some (.openBrace, rest)
  | '}' :: rest => some (.closeBrace, rest)
  | '[' :: rest => some (.openBracket, rest)
  | ']' :: rest => some (.closeBracket, rest)
  | ':' :: rest => some (.colon, rest)
  | ',' :: rest => some (.comma, rest)
  | 'n' :: 'u' :: 'l' :: 'l' :: rest => some (.null, rest)
  | 't' :: 'r' :: 'u' :: 'e' :: rest => some (.bool true, rest)
  | 'f' :: 'a' :: 'l' :: 's' :: 'e' :: rest => some (.bool false, rest)
  | '"' :: rest => (scanString [] rest).map fun (s, rest) => (.string s, rest)
  | cs => (scanNumber cs).map fun (n, rest) => (.number n, rest)

/-- The tokens of a text, after those already `found`, last first, with as many steps as given. -/
def scanSteps (found : List Token) : Nat → List Char → Option (List Token)
  | _, [] => some found.reverse
  | 0, _ => none
  | steps + 1, c :: rest =>
      if isSpace c then scanSteps found steps rest
      else
        match scanToken (c :: rest) with
        | none => none
        | some (token, rest) => scanSteps (token :: found) steps rest

/-- The tokens of a text. Each step takes at least one character. -/
def scan (s : String) : Option (List Token) :=
  let cs := s.toList
  scanSteps [] cs.length cs

end TraceAudit.Json
