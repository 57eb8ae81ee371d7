import TraceAudit.Text.CodePointTable
import TraceAudit.Text.Composition
import TraceAudit.Web.Idna.MappingTable
import TraceAudit.Web.Idna.PropertyTable

/-!
# Labels of host names

What a label, a piece of a host name between two dots, may hold: characters that stand for
themselves, no mark at its start, joiners only where they make a difference, and characters of both
directions only where their order cannot be mistaken.
-/

namespace TraceAudit.Idna

open Text (Run tableHolds findRun?)

def mappings : List Run := Run.ofRows mappingRows
def ignored : List Run := Run.ofRows ignoredRows
def disallowed : List Run := Run.ofRows disallowedRows
def nonspacingMarks : List Run := Run.ofRows nonspacingRows
def spacingMarks : List Run := Run.ofRows spacingRows
def viramas : List Run := Run.ofRows viramaRows
def transparentMarks : List Run := Run.ofRows transparentRows
def bothJoining : List Run := Run.ofRows bothJoiningRows
def backJoining : List Run := Run.ofRows backJoiningRows
def aheadJoining : List Run := Run.ofRows aheadJoiningRows

/-- What becomes of a character; none if no host name may hold it. -/
def image? (c : Char) : Option (List Char) :=
  if c.toNat < 128 then some [c.toLower]
  else if tableHolds disallowed c.toNat then none
  else if tableHolds ignored c.toNat then some []
  else
    match findRun? mappings c.toNat with
    | some r => some ((r.valueAt c.toNat).map Char.ofNat)
    | none => some [c]

/-- Whether a character stands for itself. -/
def isStable (c : Char) : Bool :=
  image? c == some [c]

/-- Whether a character is a mark. -/
def isMark (c : Char) : Bool :=
  128 ≤ c.toNat && (tableHolds nonspacingMarks c.toNat || tableHolds spacingMarks c.toNat)

/-! ## Joiners -/

def isTransparent (c : Char) : Bool :=
  tableHolds nonspacingMarks c.toNat || tableHolds transparentMarks c.toNat

/-- Whether the text before a place, last character first, joins what follows. -/
def joinsAhead (before : List Char) : Bool :=
  match before.dropWhile isTransparent with
  | [] => false
  | c :: _ => tableHolds aheadJoining c.toNat || tableHolds bothJoining c.toNat

/-- Whether the text after a place joins what stands before. -/
def joinsBack (after : List Char) : Bool :=
  match after.dropWhile isTransparent with
  | [] => false
  | c :: _ => tableHolds backJoining c.toNat || tableHolds bothJoining c.toNat

/-- Whether every joiner of a text, after the characters given last first, makes a difference: it
follows a virama, or, if it keeps letters apart, it stands between letters that would join. -/
def joinersFit (before : List Char) : List Char → Bool
  | [] => true
  | c :: rest =>
      let afterVirama := match before with
        | [] => false
        | v :: _ => tableHolds viramas v.toNat
      let fits :=
        if c.toNat = 0x200C then afterVirama || (joinsAhead before && joinsBack rest)
        else if c.toNat = 0x200D then afterVirama
        else true
      fits && joinersFit (c :: before) rest

/-! ## Directions -/

inductive Direction where
  | left
  | right
  | arabic
  | arabicNumber
  | europeanNumber
  | sign
  | separator
  | terminator
  | neutral
  | nonspacing
  deriving DecidableEq, Repr

/-- The directions of characters above ASCII; all others run from left to right. -/
def directions : List (Direction × List Run) := [
  (.nonspacing, nonspacingMarks),
  (.right, Run.ofRows rightToLeftRows),
  (.arabic, Run.ofRows arabicLetterRows),
  (.arabicNumber, Run.ofRows arabicNumberRows),
  (.europeanNumber, Run.ofRows europeanNumberRows),
  (.sign, Run.ofRows signRows),
  (.separator, Run.ofRows separatorRows),
  (.terminator, Run.ofRows terminatorRows),
  (.neutral, Run.ofRows neutralRows),
  (.neutral, Run.ofRows otherNeutralRows)]

/-- The direction of a character. -/
def direction (c : Char) : Direction :=
  if c.isAlpha then .left
  else if c.isDigit then .europeanNumber
  else if c == '+' || c == '-' then .sign
  else if c == ',' || c == '.' || c == '/' || c == ':' then .separator
  else if c == '#' || c == '$' || c == '%' then .terminator
  else if c.toNat < 128 then .neutral
  else
    match directions.find? fun d => tableHolds d.2 c.toNat with
    | some d => d.1
    | none => .left

/-- Whether a character belongs to a text from right to left. -/
def isRightToLeft (c : Char) : Bool :=
  match direction c with
  | .right => true
  | .arabic => true
  | .arabicNumber => true
  | _ => false

/-- The order rule for a label from right to left. -/
def rightToLeftFits (ds : List Direction) : Bool :=
  let ending := (ds.reverse.dropWhile (· == .nonspacing)).head?
  !ds.contains .left &&
    (ending == some .right || ending == some .arabic || ending == some .europeanNumber ||
      ending == some .arabicNumber) &&
    !(ds.contains .europeanNumber && ds.contains .arabicNumber)

/-- The order rule for a label from left to right. -/
def leftToRightFits (ds : List Direction) : Bool :=
  let ending := (ds.reverse.dropWhile (· == .nonspacing)).head?
  !ds.contains .right && !ds.contains .arabic && !ds.contains .arabicNumber &&
    (ending == some .left || ending == some .europeanNumber)

/-- The order rule for a label of a name that holds text from right to left. -/
def directionsFit (label : List Char) : Bool :=
  let ds := label.map direction
  match ds with
  | [] => true
  | .right :: _ => rightToLeftFits ds
  | .arabic :: _ => rightToLeftFits ds
  | .left :: _ => leftToRightFits ds
  | _ => false

/-- Whether a label may stand in a host name, its directions apart. -/
def isValidLabel (label : List Char) : Bool :=
  label.all isStable && Text.composed label == label && !(label.head?.any isMark) &&
    joinersFit [] label

end TraceAudit.Idna
