import TraceAudit.Json.Basic

/-!
# Writing JSON

Two layouts of a value: compact, on one line without blanks, and pretty, with two blanks per
level and one member or item to a line. Members come in the order in which the value holds them.
-/

namespace TraceAudit.Json

/-- The four digits of a Unicode escape. -/
def hex4 (n : Nat) : List Char :=
  let digits := Nat.toDigits 16 n
  List.replicate (4 - digits.length) '0' ++ digits

/-- The letter that stands for a character after a backslash, if it has one. -/
def escapeLetter? (c : Char) : Option Char :=
  match c.toNat with
  | 8 => some 'b'
  | 9 => some 't'
  | 10 => some 'n'
  | 12 => some 'f'
  | 13 => some 'r'
  | 34 => some c
  | 92 => some c
  | _ => none

/-- A character inside a string: quotes, backslashes and controls are escaped. -/
def escapeChar (c : Char) : List Char :=
  match escapeLetter? c with
  | some letter => ['\\', letter]
  | none => if c.toNat < 32 then '\\' :: 'u' :: hex4 c.toNat else [c]

/-- A string between quotes. -/
def quote (s : String) : List Char :=
  '"' :: (s.toList.flatMap escapeChar ++ ['"'])

mutual
/-- A value on one line. -/
def compactChars : Json → List Char
  | .null => ['n', 'u', 'l', 'l']
  | .bool true => ['t', 'r', 'u', 'e']
  | .bool false => ['f', 'a', 'l', 's', 'e']
  | .number n => n.text.toList
  | .string s => quote s
  | .array items => '[' :: compactItems true items
  | .object members => '{' :: compactMembers true members

/-- The items that remain and the closing bracket. -/
def compactItems (first : Bool) : List Json → List Char
  | [] => [']']
  | v :: rest => (if first then [] else [',']) ++ compactChars v ++ compactItems false rest

/-- The members that remain and the closing brace. -/
def compactMembers (first : Bool) : List (String × Json) → List Char
  | [] => ['}']
  | (name, v) :: rest =>
      (if first then [] else [',']) ++ quote name ++ ':' :: compactChars v ++
        compactMembers false rest
end

/-- A value on one line. -/
def compact (v : Json) : String :=
  String.ofList (compactChars v)

/-- The line break before an entry of a container at a depth. -/
def newLine (depth : Nat) : List Char :=
  '\n' :: List.replicate (2 * depth) ' '

mutual
/-- A value laid out at a depth. -/
def prettyChars (depth : Nat) : Json → List Char
  | .null => ['n', 'u', 'l', 'l']
  | .bool true => ['t', 'r', 'u', 'e']
  | .bool false => ['f', 'a', 'l', 's', 'e']
  | .number n => n.text.toList
  | .string s => quote s
  | .array [] => ['[', ']']
  | .array (v :: rest) =>
      '[' :: newLine (depth + 1) ++ prettyChars (depth + 1) v ++ prettyItems depth rest
  | .object [] => ['{', '}']
  | .object ((name, v) :: rest) =>
      '{' :: newLine (depth + 1) ++ quote name ++ ':' :: ' ' :: prettyChars (depth + 1) v ++
        prettyMembers depth rest

/-- The further items of an array at a depth, and its closing bracket. -/
def prettyItems (depth : Nat) : List Json → List Char
  | [] => newLine depth ++ [']']
  | v :: rest =>
      ',' :: newLine (depth + 1) ++ prettyChars (depth + 1) v ++ prettyItems depth rest

/-- The further members of an object at a depth, and its closing brace. -/
def prettyMembers (depth : Nat) : List (String × Json) → List Char
  | [] => newLine depth ++ ['}']
  | (name, v) :: rest =>
      ',' :: newLine (depth + 1) ++ quote name ++ ':' :: ' ' :: prettyChars (depth + 1) v ++
        prettyMembers depth rest
end

/-- A value laid out over several lines. -/
def pretty (v : Json) : String :=
  String.ofList (prettyChars 0 v)

end TraceAudit.Json
