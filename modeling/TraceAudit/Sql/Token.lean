import TraceAudit.Text.Blank
import TraceAudit.Text.Letters
import TraceAudit.Sql.Expr

/-!
# SQL tokens

The lexical half of reading SQL: a text is cut into words, numbers, quoted texts, placeholders
and symbols. Blanks and comments separate tokens and are dropped; block comments nest.
-/

namespace TraceAudit.Sql

inductive Token where
  /-- A name or keyword; `keyword` is its capital form, empty for a quoted name. -/
  | word (text : String) (quote : Option Char) (keyword : String)
  /-- The digits, point and exponent of a number, as written. -/
  | number (text : String)
  | text (quoting : Quoting) (content : String)
  | placeholder (name : String)
  /-- An operator or a mark of punctuation. -/
  | symbol (spelling : String)
  deriving DecidableEq, Repr

/-! ## Words -/

/-- Whether a character can start a name. -/
def startsName (c : Char) : Bool :=
  Text.isAlphabetic c || c == '_' || c == '#' || c == '@'

/-- Whether a character can continue a name. -/
def continuesName (c : Char) : Bool :=
  Text.isAlphabetic c || c.isDigit || c == '@' || c == '$' || c == '#' || c == '_'

/-- The capital form of a character, for the characters whose capital form is made of ASCII
letters; any other character stands for itself. -/
def capital (c : Char) : List Char :=
  match c.toNat with
  | 0x131 => ['I']
  | 0x17F => ['S']
  | 0xDF => ['S', 'S']
  | 0xFB00 => ['F', 'F']
  | 0xFB01 => ['F', 'I']
  | 0xFB02 => ['F', 'L']
  | 0xFB03 => ['F', 'F', 'I']
  | 0xFB04 => ['F', 'F', 'L']
  | 0xFB05 => ['S', 'T']
  | 0xFB06 => ['S', 'T']
  | _ => [c.toUpper]

/-- An unquoted word. -/
def plainWord (cs : List Char) : Token :=
  .word (String.ofList cs) none (String.ofList (cs.flatMap capital))

/-- The word that begins with `start`, continued into `cs`. -/
def scanWord (start cs : List Char) : Token × List Char :=
  let (more, rest) := cs.span continuesName
  (plainWord (start ++ more), rest)

/-! ## Quoted texts -/

/-- The rest of a text after its opening quote; a doubled quote is one quote. -/
def scanQuoted (quote : Char) (done : List Char) : List Char → Option (List Char × List Char)
  | [] => none
  | [c] => if c == quote then some (done.reverse, []) else none
  | c :: d :: rest =>
      if c == quote then
        if d == quote then scanQuoted quote (quote :: done) rest
        else some (done.reverse, d :: rest)
      else scanQuoted quote (c :: done) (d :: rest)

/-- The character that a backslash before this one stands for. -/
def unescaped (c : Char) : Char :=
  match c with
  | '0' => Char.ofNat 0
  | 'a' => Char.ofNat 7
  | 'b' => Char.ofNat 8
  | 'f' => Char.ofNat 12
  | 'n' => '\n'
  | 'r' => '\r'
  | 't' => '\t'
  | 'Z' => Char.ofNat 26
  | _ => c

/-- The rest of a text in which a backslash takes the next character with it. -/
def scanBackslashed (quote : Char) (done : List Char) : List Char → Option (List Char × List Char)
  | [] => none
  | [c] => if c == quote then some (done.reverse, []) else none
  | c :: d :: rest =>
      if c == '\\' then scanBackslashed quote (unescaped d :: done) rest
      else if c == quote then
        if d == quote then scanBackslashed quote (quote :: done) rest
        else some (done.reverse, d :: rest)
      else scanBackslashed quote (c :: done) (d :: rest)

/-- The rest of a text that three quotes end. -/
def scanTripled (quote : Char) (done : List Char) : List Char → Option (List Char × List Char)
  | a :: b :: c :: rest =>
      if a == quote && b == quote && c == quote then some (done.reverse, rest)
      else scanTripled quote (a :: done) (b :: c :: rest)
  | _ => none

/-- A text without escapes, after the mark that announces it. -/
def scanRaw (quote : Char) (cs : List Char) : Option (List Char × List Char) :=
  match cs with
  | a :: b :: c :: rest =>
      if a == quote && b == quote && c == quote then scanTripled quote [] rest
      else if a == quote && b == quote then some ([], c :: rest)
      else scanQuoted quote [] (b :: c :: rest)
  | _ :: rest => scanQuoted quote [] rest
  | [] => none

/-- The value of a hexadecimal digit. -/
def hexDigit? (c : Char) : Option Nat :=
  if c.isDigit then some (c.toNat - '0'.toNat)
  else if 'a' ≤ c ∧ c ≤ 'f' then some (c.toNat - 'a'.toNat + 10)
  else if 'A' ≤ c ∧ c ≤ 'F' then some (c.toNat - 'A'.toNat + 10)
  else none

/-- Reads exactly `count` hexadecimal digits. -/
def takeHex : Nat → Nat → List Char → Option (Nat × List Char)
  | 0, n, cs => some (n, cs)
  | _ + 1, _, [] => none
  | count + 1, n, c :: rest =>
      match hexDigit? c with
      | some d => takeHex count (16 * n + d) rest
      | none => none

/-- Reads up to `count` digits of a base. -/
def takeDigits (base : Nat) : Nat → Nat → List Char → Nat × List Char
  | 0, n, cs => (n, cs)
  | _ + 1, n, [] => (n, [])
  | count + 1, n, c :: rest =>
      match hexDigit? c with
      | some d => if d < base then takeDigits base count (base * n + d) rest else (n, c :: rest)
      | none => (n, c :: rest)

/-- The character of a code point, if there is one. -/
def charOf? (n : Nat) : Option Char :=
  if n.isValidChar then some (Char.ofNat n) else none

/-- The character of a backslash escape, after the backslash. The null character has none. -/
def scanEscape : List Char → Option (Char × List Char)
  | [] => none
  | c :: rest => do
      let (d, rest) ←
        if c == 'b' then some (Char.ofNat 8, rest)
        else if c == 'f' then some (Char.ofNat 12, rest)
        else if c == 'n' then some ('\n', rest)
        else if c == 'r' then some ('\r', rest)
        else if c == 't' then some ('\t', rest)
        else if c == 'u' then do
          let (n, rest) ← takeHex 4 0 rest
          some (← charOf? n, rest)
        else if c == 'U' then do
          let (n, rest) ← takeHex 8 0 rest
          some (← charOf? n, rest)
        else if c == 'x' then
          if rest.head?.bind hexDigit? |>.isNone then some ('x', rest)
          else
            let (n, rest) := takeDigits 16 2 0 rest
            if n < 128 then some (Char.ofNat n, rest) else none
        else if '0' ≤ c ∧ c ≤ '7' then
          let (n, rest) := takeDigits 8 3 0 (c :: rest)
          if n % 256 < 128 then some (Char.ofNat (n % 256), rest) else none
        else some (c, rest)
      if d.toNat == 0 then none else some (d, rest)

/-- The rest of a text with backslash escapes, with as many steps as given. -/
def scanEscaped : Nat → List Char → List Char → Option (List Char × List Char)
  | 0, _, _ => none
  | _ + 1, _, [] => none
  | steps + 1, done, '\'' :: '\'' :: rest => scanEscaped steps ('\'' :: done) rest
  | _ + 1, done, '\'' :: rest => some (done.reverse, rest)
  | steps + 1, done, '\\' :: rest =>
      match scanEscape rest with
      | some (c, rest) => scanEscaped steps (c :: done) rest
      | none => none
  | steps + 1, done, c :: rest => scanEscaped steps (c :: done) rest

/-- The rest of a text with code points for characters, with as many steps as given. -/
def scanCodePoints : Nat → List Char → List Char → Option (List Char × List Char)
  | 0, _, _ => none
  | _ + 1, _, [] => none
  | steps + 1, done, '\'' :: '\'' :: rest => scanCodePoints steps ('\'' :: done) rest
  | _ + 1, done, '\'' :: rest => some (done.reverse, rest)
  | steps + 1, done, '\\' :: '\\' :: rest => scanCodePoints steps ('\\' :: done) rest
  | steps + 1, done, '\\' :: '+' :: rest => do
      let (n, rest) ← takeHex 6 0 rest
      scanCodePoints steps ((← charOf? n) :: done) rest
  | steps + 1, done, '\\' :: rest => do
      let (n, rest) ← takeHex 4 0 rest
      scanCodePoints steps ((← charOf? n) :: done) rest
  | steps + 1, done, c :: rest => scanCodePoints steps (c :: done) rest

/-- The rest of a text between equal tags. After a dollar sign, `ahead` is what is still missing of
the tag: a character that differs from it is passed over, even if it is a dollar sign. -/
def scanTagged (tag : List Char) (ahead : Option (List Char)) (done : List Char) :
    List Char → Option (List Char × List Char)
  | [] => none
  | c :: rest =>
      match ahead with
      | none => scanTagged tag (if c == '$' then some tag else none) (c :: done) rest
      | some [] =>
          if c == '$' then some ((done.drop (tag.length + 1)).reverse, rest)
          else scanTagged tag none (c :: done) rest
      | some (t :: more) => scanTagged tag (if c == t then some more else none) (c :: done) rest

/-- A dollar sign begins a text between equal tags, or a placeholder. -/
def scanDollar (cs : List Char) : Option (Token × List Char) :=
  let (tag, rest) := cs.span fun c => Text.isAlphabetic c || Text.isNumeral c || c == '_'
  match rest with
  | '$' :: rest =>
      (scanTagged tag none [] rest).map fun (content, rest) =>
        (.text .dollar (String.ofList content), rest)
  | _ => some (.placeholder (String.ofList ('$' :: tag)), rest)

/-! ## Numbers -/

/-- The exponent at the start of a text; nothing if no digit belongs to it. -/
def scanExponent (cs : List Char) : List Char × List Char :=
  match cs with
  | e :: rest =>
      if e == 'e' || e == 'E' then
        let (sign, rest) := match rest with
          | '+' :: rest => (['+'], rest)
          | '-' :: rest => (['-'], rest)
          | rest => ([], rest)
        match rest.span Char.isDigit with
        | ([], _) => ([], cs)
        | (digits, rest) => (e :: (sign ++ digits), rest)
      else ([], cs)
  | [] => ([], cs)

/-- The number at the start of a text that begins with a digit or a point; a point alone is
punctuation, and a point before an underscore is one only right after a word. -/
def scanNumber (afterWord : Bool) (cs : List Char) : Option (Token × List Char) :=
  match cs with
  | '.' :: '_' :: _ => if afterWord then some (.symbol ".", cs.drop 1) else none
  | '0' :: 'x' :: rest =>
      let (digits, rest) := rest.span fun c => (hexDigit? c).isSome
      some (.text .hex (String.ofList digits), rest)
  | _ =>
      let (whole, rest) := cs.span Char.isDigit
      let (point, rest) := match rest with
        | '.' :: rest => (['.'], rest)
        | rest => ([], rest)
      let (places, rest) := rest.span Char.isDigit
      let mantissa := whole ++ point ++ places
      if mantissa == ['.'] then some (.symbol ".", rest)
      else
        let (exponent, rest) := scanExponent rest
        let rest := match rest with
          | 'L' :: rest => rest
          | rest => rest
        some (.number (String.ofList (mantissa ++ exponent)), rest)

/-! ## Comments -/

/-- The rest of a text after a block comment that is open `depth + 1` times. A star opens one after
a slash and a slash closes one after a star, also where the one before was part of another mark. -/
def skipBlock (depth : Nat) (before : Char) : List Char → Option (List Char)
  | [] => none
  | c :: rest =>
      if before == '/' && c == '*' then skipBlock (depth + 1) c rest
      else if before == '*' && c == '/' then
        match depth with
        | 0 => some rest
        | depth + 1 => skipBlock depth c rest
      else skipBlock depth c rest

/-- The rest of a text after the line. -/
def skipLine (cs : List Char) : List Char :=
  (cs.dropWhile (· != '\n')).drop 1

/-! ## Texts -/

/-- The symbols of more than one character; of two that fit, the one listed first is meant. -/
def longSymbols : List String := [
  "->>", "->", "//", "||/", "||", "|/", "=>", "==", "!=", "!!", "!~~*", "!~~", "!~*", "!~",
  "<=>", "<=", "<>", "<<", "<@", ">=", ">>", "::", ":=", "&&", "^@", "~*", "~~*", "~~"]

/-- A word that begins with a mark: the character after the mark belongs to it, whatever it is. -/
def scanMarked (mark cs : List Char) : Token × List Char :=
  match cs with
  | c :: rest => scanWord (mark ++ [c]) rest
  | [] => (.symbol (String.ofList mark), [])

/-- What begins with a number sign. -/
def scanHash (cs : List Char) : Token × List Char :=
  match cs with
  | '-' :: rest => (.symbol "#-", rest)
  | '>' :: '>' :: rest => (.symbol "#>>", rest)
  | '>' :: rest => (.symbol "#>", rest)
  | ' ' :: _ => (.symbol "#", cs)
  | _ => scanMarked ['#'] cs

/-- What begins with an at sign. -/
def scanAt (cs : List Char) : Token × List Char :=
  match cs with
  | '>' :: rest => (.symbol "@>", rest)
  | '?' :: rest => (.symbol "@?", rest)
  | '@' :: ' ' :: rest => (.symbol "@@", ' ' :: rest)
  | '@' :: rest => scanMarked ['@', '@'] rest
  | ' ' :: _ => (.symbol "@", cs)
  | '\'' :: _ => (.symbol "@", cs)
  | '"' :: _ => (.symbol "@", cs)
  | '`' :: _ => (.symbol "@", cs)
  | _ => scanMarked ['@'] cs

/-- A symbol by its spelling; a character that begins no token is a symbol of its own. -/
def scanSymbol (cs : List Char) : Token × List Char :=
  match longSymbols.find? (fun s => s.toList.isPrefixOf cs) with
  | some s => (.symbol s, cs.drop s.toList.length)
  | none => (.symbol (String.ofList (cs.take 1)), cs.drop 1)

/-- A text literal. -/
def textToken (quoting : Quoting) (scanned : Option (List Char × List Char)) :
    Option (Option Token × List Char) :=
  scanned.map fun (content, rest) => (some (.text quoting (String.ofList content)), rest)

/-- A quoted name. -/
def nameToken (quote : Char) (scanned : Option (List Char × List Char)) :
    Option (Option Token × List Char) :=
  scanned.map fun (name, rest) => (some (.word (String.ofList name) (some quote) ""), rest)

/-- The token at the start of a text that no mark of a literal or comment begins. -/
def scanPlain (afterWord : Bool) (c : Char) (rest : List Char) : Option (Token × List Char) :=
  if c.isDigit || c == '.' then scanNumber afterWord (c :: rest)
  else if startsName c then some (scanWord [c] rest)
  else if c == '$' then scanDollar rest
  else some (scanSymbol (c :: rest))

/-- The token at the start of a text, nothing for a blank or a comment; `afterWord` tells whether
a word ended right before. -/
def scanToken (afterWord : Bool) (c : Char) (rest : List Char) :
    Option (Option Token × List Char) :=
  if Text.isBlank c then some (none, rest)
  else match c.toLower, rest with
    | '\'', body => textToken .single (scanQuoted '\'' [] body)
    | '"', body => nameToken '"' (scanQuoted '"' [] body)
    | '`', body => nameToken '`' (scanQuoted '`' [] body)
    | '-', '-' :: body => some (none, skipLine body)
    | '/', '*' :: body => (skipBlock 0 ' ' body).map fun rest => (none, rest)
    | 'b', '\'' :: body => textToken .bytes (scanQuoted '\'' [] body)
    | 'b', '"' :: body => textToken .bytes (scanQuoted '"' [] body)
    | 'r', '\'' :: _ => textToken .raw (scanRaw '\'' rest)
    | 'r', '"' :: _ => textToken .raw (scanRaw '"' rest)
    | 'n', '\'' :: body => textToken .national (scanBackslashed '\'' [] body)
    | 'e', '\'' :: body => textToken .escaped (scanEscaped (body.length + 1) [] body)
    | 'x', '\'' :: body => textToken .hex (scanBackslashed '\'' [] body)
    | 'u', '&' :: '\'' :: body => textToken .unicode (scanCodePoints (body.length + 1) [] body)
    | '#', body => some ((scanHash body).map some id)
    | '@', body => some ((scanAt body).map some id)
    | '?', body =>
        let (digits, rest) := body.span Text.isNumeral
        some (some (.placeholder (String.ofList ('?' :: digits))), rest)
    | _, _ => (scanPlain afterWord c rest).map fun (t, rest) => (some t, rest)

/-- The tokens of a text, after those already `found`, last first, with as many steps as given. -/
def scanSteps (found : List Token) (afterWord : Bool) : Nat → List Char → Option (List Token)
  | _, [] => some found.reverse
  | 0, _ => none
  | steps + 1, c :: rest =>
      match scanToken afterWord c rest with
      | none => none
      | some (none, rest) => scanSteps found false steps rest
      | some (some t, rest) =>
          let isWord := match t with
            | .word _ _ _ => true
            | _ => false
          scanSteps (t :: found) isWord steps rest

/-- The tokens of a text; none if a quote or a comment is not closed. Each step takes at least
one character. -/
def scan (s : String) : Option (List Token) :=
  let cs := s.toList
  scanSteps [] false cs.length cs

end TraceAudit.Sql
