import TraceAudit.Text.CodePointTable
import TraceAudit.Text.CompositionTable

/-!
# Canonical composition

The composed form of a text: characters are taken apart, the marks after each are put in the order
of their classes, and characters are put together again where they can be. It is meant for texts
that hold no character with another canonical form than the composed one.
-/

namespace TraceAudit.Text

/-- The characters that are two others in one. -/
def composites : List Run := Run.ofRows compositeRows

/-- The marks with their classes. -/
def markClasses : List Run := Run.ofRows markClassRows

/-- The class of a mark, and zero for any other character. -/
def markClass (n : Nat) : Nat :=
  match findRun? markClasses n with
  | some r => r.value.headD 0
  | none => 0

namespace Hangul

def firstSyllable : Nat := 0xAC00
def firstLead : Nat := 0x1100
def firstVowel : Nat := 0x1161
/-- One before the first trailing consonant. -/
def trailBase : Nat := 0x11A7
def leads : Nat := 19
def vowels : Nat := 21
/-- How many trails there are, no trail being one of them. -/
def trails : Nat := 28

def isSyllable (n : Nat) : Bool :=
  firstSyllable ≤ n && n < firstSyllable + leads * vowels * trails

/-- The letters of a syllable. -/
def letters (n : Nat) : List Nat :=
  let i := n - firstSyllable
  let lead := firstLead + i / (vowels * trails)
  let vowel := firstVowel + i % (vowels * trails) / trails
  if i % trails = 0 then [lead, vowel] else [lead, vowel, trailBase + i % trails]

/-- The syllable that two letters, or a syllable and a trailing consonant, make. -/
def compose? (a b : Nat) : Option Nat :=
  if firstLead ≤ a ∧ a < firstLead + leads ∧ firstVowel ≤ b ∧ b < firstVowel + vowels then
    some (firstSyllable + ((a - firstLead) * vowels + (b - firstVowel)) * trails)
  else if isSyllable a ∧ (a - firstSyllable) % trails = 0 ∧ trailBase < b ∧
      b < trailBase + trails then
    some (a + (b - trailBase))
  else none

end Hangul

/-- How often a composite can be taken apart. -/
def maxParts : Nat := 8

/-- A character taken apart, again and again at most as often as given. -/
def decompose : Nat → Nat → List Nat
  | 0, n => [n]
  | depth + 1, n =>
      if n < 0xC0 then [n]
      else if Hangul.isSyllable n then Hangul.letters n
      else
        match findRun? composites n with
        | some ⟨_, _, _, [a, b]⟩ => decompose depth a ++ [b]
        | _ => [n]

/-- The composite of two characters. -/
def composite? (a b : Nat) : Option Nat :=
  match Hangul.compose? a b with
  | some n => some n
  | none => (composites.find? (·.value == [a, b])).map (·.first)

/-- Puts a character with its class after a text, last character first: a mark goes before the
marks of higher classes that the text ends in. -/
def insertMark (mark : Nat × Nat) : List (Nat × Nat) → List (Nat × Nat)
  | [] => [mark]
  | last :: rest =>
      if mark.1 ≠ 0 ∧ mark.1 < last.1 then last :: insertMark mark rest
      else mark :: last :: rest

/-- Characters with their classes, marks in order. -/
def ordered (ns : List Nat) : List (Nat × Nat) :=
  (ns.foldl (fun done n => insertMark (markClass n, n) done) []).reverse

/-- Puts characters together, given the last character that is no mark and, last first, the marks
after it that it could not take in. -/
def compose (base : Option Nat) (marks : List (Nat × Nat)) : List (Nat × Nat) → List Nat
  | [] => base.toList ++ marks.reverse.map (·.2)
  | (k, n) :: rest =>
      let reachable := match marks with
        | [] => true
        | (last, _) :: _ => last < k
      match if reachable then base.bind (composite? · n) else none with
      | some both => compose (some both) marks rest
      | none =>
          if k = 0 then base.toList ++ marks.reverse.map (·.2) ++ compose (some n) [] rest
          else compose base ((k, n) :: marks) rest

/-- The composed form of a text. -/
def composed (cs : List Char) : List Char :=
  let parts := cs.flatMap fun c => decompose maxParts c.toNat
  (compose none [] (ordered parts)).map Char.ofNat

end TraceAudit.Text
