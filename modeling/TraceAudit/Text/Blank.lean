/-!
# Blank characters and words

A character is blank when it has the Unicode property White_Space. Every cut of a text in this
library, at its ends or into words, is made at blanks.
-/

namespace TraceAudit.Text

/-- The twenty-five characters with the property White_Space. -/
def isBlank (c : Char) : Bool :=
  let n := c.toNat
  (9 ≤ n && n ≤ 13) || n == 32 || n == 0x85 || n == 0xA0 || n == 0x1680 ||
    (0x2000 ≤ n && n ≤ 0x200A) || n == 0x2028 || n == 0x2029 || n == 0x202F ||
    n == 0x205F || n == 0x3000

/-- A text without the blanks at its start. -/
def dropBlanks (cs : List Char) : List Char :=
  cs.dropWhile isBlank

/-- A text without the characters at its end that satisfy `p`. -/
def dropEndWhile (p : Char → Bool) (cs : List Char) : List Char :=
  (cs.reverse.dropWhile p).reverse

/-- A text without the blanks at either end. -/
def trimChars (cs : List Char) : List Char :=
  dropEndWhile isBlank (dropBlanks cs)

/-- A text without the blanks at either end. -/
def trim (s : String) : String :=
  String.ofList (trimChars s.toList)

/-- The words of a text, given the letters, last first, of a word already begun. -/
def wordsFrom (begun : List Char) : List Char → List (List Char)
  | [] => if begun.isEmpty then [] else [begun.reverse]
  | c :: rest =>
      if isBlank c then
        if begun.isEmpty then wordsFrom [] rest
        else begun.reverse :: wordsFrom [] rest
      else wordsFrom (c :: begun) rest

/-- The maximal blank-free pieces of a text, in order. -/
def wordChars (cs : List Char) : List (List Char) :=
  wordsFrom [] cs

/-- The maximal blank-free pieces of a text, in order. -/
def words (s : String) : List String :=
  (wordChars s.toList).map String.ofList

/-- A text that is empty or holds blanks only. -/
def isBlankText (s : String) : Bool :=
  s.toList.all isBlank

@[simp] theorem wordsFrom_nil (begun : List Char) :
    wordsFrom begun [] = if begun.isEmpty then [] else [begun.reverse] := rfl

theorem wordsFrom_blank {c : Char} (h : isBlank c = true) (rest : List Char) :
    wordsFrom [] (c :: rest) = wordsFrom [] rest := by
  simp [wordsFrom, h]

theorem wordsFrom_letter {c : Char} (h : isBlank c = false) (begun rest : List Char) :
    wordsFrom begun (c :: rest) = wordsFrom (c :: begun) rest := by
  simp [wordsFrom, h]

end TraceAudit.Text
