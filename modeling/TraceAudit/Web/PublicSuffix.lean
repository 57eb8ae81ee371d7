import TraceAudit.Text.Cut
import TraceAudit.Web.PublicSuffix.Table

/-!
# Public suffixes

A public suffix is a part of the name space below which anyone may register names. The registrable
domain of a host is its public suffix with one label more, so that hosts of one owner share it. The
labels themselves are taken as they are.
-/

namespace TraceAudit.PublicSuffix

/-- The rules for a last label. -/
def rulesBelow (last : List Char) : SuffixRules :=
  match ruleRows.find? fun row => row.1 == String.ofList last with
  | none => ⟨[], [], []⟩
  | some (_, rules) => rules

/-- The name made of labels that are given last one first. -/
def nameOf (labels : List (List Char)) : String :=
  String.ofList (Text.joined '.' labels.reverse)

namespace SuffixRules

/-- Whether labels and the last label make a suffix. The first label may be empty below a parent. -/
def isSuffix (rules : SuffixRules) (labels : List (List Char)) : Bool :=
  let parent := labels.dropLast
  rules.suffixes.contains (nameOf labels) ||
    parent.all (!·.isEmpty) && rules.parents.contains (nameOf parent)

/-- How many labels the suffix of a host has, given the rules for its last label and the labels
before that, last one first: an exception decides, which is a name with one label more than the
suffix, else the longest suffix, and else it is the last label. -/
def suffixSize (rules : SuffixRules) (labels : List (List Char)) : Nat :=
  let counts := (List.range labels.length).map (· + 1)
  match counts.find? fun n => rules.exceptions.contains (nameOf (labels.take n)) with
  | some n => n
  | none => (counts.filter fun n => rules.isSuffix (labels.take n)).getLast?.getD 0 + 1

end SuffixRules

/-- The registrable domain of a host, under the rules for its last label: the suffix and the label
before it. A host that is a suffix has none, nor has one whose first label is empty and the only
one before the suffix. -/
def registrableUnder (rules : SuffixRules) (host : List Char) : Option (List Char) :=
  let labels := (Text.pieces (· == '.') host).reverse
  let size := rules.suffixSize labels.tail
  match labels.take size, labels.drop size with
  | [] :: _, _ => none
  | _, [] => none
  | _, [[]] => none
  | suffix, label :: _ => some (Text.joined '.' (suffix ++ [label]).reverse)

/-- The registrable domain of a host. -/
def registrable? (host : List Char) : Option (List Char) :=
  match (Text.pieces (· == '.') host).getLast? with
  | none => none
  | some last => registrableUnder (rulesBelow last) host

end TraceAudit.PublicSuffix
