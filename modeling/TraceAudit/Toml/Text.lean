import TraceAudit.Web.Address

/-!
# TOML: texts and keys

The four kinds of strings, the keys, and what may stand between them. Each reader takes the text
from where it stands and gives what it read with the rest, or nothing if the text is malformed.
-/

namespace TraceAudit.Toml

/-- A space or a tab. -/
def isGap (c : Char) : Bool := c == ' ' || c == '\t'

/-- A text without the spaces and tabs at its start. -/
def skipGaps (cs : List Char) : List Char := cs.dropWhile isGap

/-- What follows a line break. -/
def lineBreak? : List Char → Option (List Char)
  | '\n' :: rest => some rest
  | '\r' :: '\n' :: rest => some rest
  | _ => none

/-- Whether a character may stand in a comment. -/
def inComment (c : Char) : Bool := c == '\t' || 32 ≤ c.toNat

/-- A text without the comment at its start, if there is one. -/
def skipComment : List Char → List Char
  | '#' :: rest => rest.dropWhile inComment
  | cs => cs

/-- The text after the end of a line: spaces, a comment, and a line break or the end. -/
def endLine? (cs : List Char) : Option (List Char) :=
  match skipComment (skipGaps cs) with
  | [] => some []
  | rest => lineBreak? rest

/-- A text without the spaces, comments and line breaks at its start, of which there are at most as
many as given. -/
def skipLines : Nat → List Char → List Char
  | 0, cs => cs
  | n + 1, cs =>
      let rest := skipComment (skipGaps cs)
      match lineBreak? rest with
      | some after => skipLines n after
      | none => rest

/-! ## Strings -/

/-- Whether a character stands for itself between double quotes on one line. -/
def isBasic (c : Char) : Bool :=
  c == '\t' || (32 ≤ c.toNat && c.toNat != 127 && c != '"' && c != '\\')

/-- Whether a character may stand between single quotes on one line. -/
def isLiteral (c : Char) : Bool :=
  c == '\t' || (32 ≤ c.toNat && c.toNat != 127 && c != '\'')

/-- The character of a code point in hexadecimal digits. -/
def codePoint? (digits : List Char) : Option Char := do
  let n ← Web.number? 16 digits
  if h : n.isValidChar then return Char.ofNatAux n h else none

/-- The character that an escape stands for, after its backslash. -/
def escape? : List Char → Option (Char × List Char)
  | 'b' :: rest => some ('\x08', rest)
  | 't' :: rest => some ('\t', rest)
  | 'n' :: rest => some ('\n', rest)
  | 'f' :: rest => some ('\x0c', rest)
  | 'r' :: rest => some ('\r', rest)
  | '"' :: rest => some ('"', rest)
  | '\\' :: rest => some ('\\', rest)
  | 'u' :: a :: b :: c :: d :: rest => do return (← codePoint? [a, b, c, d], rest)
  | 'U' :: a :: b :: c :: d :: e :: f :: g :: h :: rest => do
      return (← codePoint? [a, b, c, d, e, f, g, h], rest)
  | _ => none

/-- The text after a line that ends in a backslash: blank up to its end, with all blanks and line
breaks after it. -/
def continued? (cs : List Char) : Option (List Char) := do
  let rest ← lineBreak? (skipGaps cs)
  return rest.dropWhile fun c => isGap c || c == '\n' || c == '\r'

/-- A string between double quotes on one line, after what is done, last character first. Each step
takes a character at least. -/
def basic (done : List Char) : Nat → List Char → Option (String × List Char)
  | 0, _ => none
  | _ + 1, [] => none
  | _ + 1, '"' :: rest => some (String.ofList done.reverse, rest)
  | n + 1, '\\' :: rest => do
      let (c, rest) ← escape? rest
      basic (c :: done) n rest
  | n + 1, c :: rest => if isBasic c then basic (c :: done) n rest else none

/-- A string between single quotes on one line. -/
def literal (done : List Char) : List Char → Option (String × List Char)
  | [] => none
  | '\'' :: rest => some (String.ofList done.reverse, rest)
  | c :: rest => if isLiteral c then literal (c :: done) rest else none

/-- The end of a string of several lines: three quotes after at most two that belong to it. -/
def closing? (quote : Char) (done cs : List Char) : Option (String × List Char) :=
  let quotes := cs.takeWhile (· == quote)
  if 3 ≤ quotes.length then
    let own := min (quotes.length - 3) 2
    some (String.ofList (done.reverse ++ List.replicate own quote), cs.drop (own + 3))
  else none

/-- A string between three double quotes. -/
def basicLines (done : List Char) : Nat → List Char → Option (String × List Char)
  | 0, _ => none
  | n + 1, cs =>
      match closing? '"' done cs with
      | some found => some found
      | none =>
          match cs with
          | '\\' :: rest =>
              match continued? rest with
              | some rest => basicLines done n rest
              | none => do
                  let (c, rest) ← escape? rest
                  basicLines (c :: done) n rest
          | c :: rest =>
              match lineBreak? cs with
              | some rest => basicLines ('\n' :: done) n rest
              | none => if isBasic c || c == '"' then basicLines (c :: done) n rest else none
          | [] => none

/-- A string between three single quotes. -/
def literalLines (done : List Char) : Nat → List Char → Option (String × List Char)
  | 0, _ => none
  | n + 1, cs =>
      match closing? '\'' done cs with
      | some found => some found
      | none =>
          match cs with
          | c :: rest =>
              match lineBreak? cs with
              | some rest => literalLines ('\n' :: done) n rest
              | none => if isLiteral c || c == '\'' then literalLines (c :: done) n rest else none
          | [] => none

/-- A text without the line break at its start, if there is one. -/
def dropLineBreak (cs : List Char) : List Char :=
  (lineBreak? cs).getD cs

/-- A string of any kind. -/
def string? (cs : List Char) : Option (String × List Char) :=
  let steps := cs.length + 1
  match cs with
  | '"' :: '"' :: '"' :: rest => basicLines [] steps (dropLineBreak rest)
  | '"' :: rest => basic [] steps rest
  | '\'' :: '\'' :: '\'' :: rest => literalLines [] steps (dropLineBreak rest)
  | '\'' :: rest => literal [] rest
  | _ => none

/-! ## Keys -/

/-- Whether a character may stand in a key without quotes. -/
def isBare (c : Char) : Bool := c.isAlphanum || c == '_' || c == '-'

/-- One part of a key: bare, or a string on one line. -/
def keyPart? (cs : List Char) : Option (String × List Char) :=
  match cs with
  | '"' :: rest => basic [] (rest.length + 1) rest
  | '\'' :: rest => literal [] rest
  | _ =>
      let bare := cs.takeWhile isBare
      if bare.isEmpty then none else some (String.ofList bare, cs.dropWhile isBare)

/-- A key of at most as many parts as given, with dots between them. -/
def key? : Nat → List Char → Option (List String × List Char)
  | 0, _ => none
  | n + 1, cs => do
      let (part, rest) ← keyPart? (skipGaps cs)
      match skipGaps rest with
      | '.' :: rest =>
          let (parts, rest) ← key? n rest
          return (part :: parts, rest)
      | rest => return ([part], rest)

end TraceAudit.Toml
