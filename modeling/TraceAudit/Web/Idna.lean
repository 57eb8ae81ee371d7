import TraceAudit.Web.Idna.Label
import TraceAudit.Web.Punycode

/-!
# Internationalized host names

The ASCII form of a host name: characters are mapped, the name is composed, and each label that
holds more than ASCII is written in Punycode after `xn--`. A label that already is so written has
to be the writing of a valid label.
-/

namespace TraceAudit.Idna

/-- What a label in Punycode starts with. -/
def writtenStart : List Char := ['x', 'n', '-', '-']

/-- The label that a label of a mapped name stands for. -/
def label? (label : List Char) : Option (List Char) :=
  if label.take 4 = writtenStart then do
    let read ← Punycode.decode? (label.drop 4)
    if !read.all (·.toNat < 128) && isValidLabel read then return read else none
  else if label.all (·.toNat < 128) || isValidLabel label then some label
  else none

/-- A label in ASCII. -/
def written (label : List Char) : List Char :=
  if label.all (·.toNat < 128) then label else writtenStart ++ Punycode.encode label

/-- The characters of ASCII that no host name may hold. -/
def isForbidden (c : Char) : Bool :=
  c.toNat ≤ 32 || c.toNat == 127 || "%#/:<>?@[\\]^|".toList.contains c

/-- The ASCII form of a host name; none if it has none. -/
def toAscii? (name : List Char) : Option (List Char) := do
  let mapped := (← name.mapM image?).flatten
  let parts := Text.pieces (· == '.') (Text.composed mapped)
  let labels ← parts.mapM label?
  let ordered := !labels.any (·.any isRightToLeft) || labels.all directionsFit
  let ascii := Text.joined '.' (parts.map written)
  if ordered && !ascii.any isForbidden then return ascii else none

end TraceAudit.Idna
