import TraceAudit.Json.Basic
import TraceAudit.Number.Range
import TraceAudit.Text.Quoted

/-!
# Shapes

A shape says which fields a value has. A value has a shape as an object with a member for each
field, under one of the field's names, or as an array with the fields in the shape's order.
`Shape.read` gives the fields found, each under its own name, or the first fault.
-/

namespace TraceAudit.Json

/-- What a field may hold. -/
inductive FieldKind where
  | text
  | textOrNull
  | members
  | any
  deriving DecidableEq, Repr

/-- Where a field has to be. -/
inductive Presence where
  | everywhere
  /-- In an array; an object may be without it. -/
  | inArrays
  | nowhere
  deriving DecidableEq, Repr

structure Field where
  name : String
  /-- Other names that a member may give the field. -/
  aliases : List String
  kind : FieldKind
  presence : Presence
  deriving DecidableEq, Repr

structure Shape where
  name : String
  /-- The fields, in the order in which an array gives them. -/
  fields : List Field
  /-- Whether a member that is no field is refused. -/
  isClosed : Bool
  deriving DecidableEq, Repr

/-- What a form of writing allows. -/
structure Form where
  /-- Whether an array may go on after the last field. -/
  allowsExtraItems : Bool
  /-- Whether a value stands for nothing, after the name of an alternative. -/
  isNothing : Json → Bool

/-- How a value fails to have a shape. -/
inductive ShapeFault where
  | wrongKind (found : Json) (wanted : String)
  | missing (field : String)
  | duplicate (field : String)
  | unknown (member : String)
  | tooFew (count : Nat) (shape : String) (wanted : Nat)
  | tooMany (count : Nat)
  deriving Repr

/-- What a value is, in a few words. -/
def description : Json → String
  | .null => "null"
  | .bool b => "boolean `" ++ toString b ++ "`"
  | .number (.integer n) => "integer `" ++ (Number.integer n).text ++ "`"
  | .number (.real x) => "floating point `" ++ (Number.real x).text ++ "`"
  | .string s => "string " ++ Text.quoted s
  | .array _ => "sequence"
  | .object _ => "map"

/-- The wording of a fault. -/
def ShapeFault.message : ShapeFault → String
  | .wrongKind found wanted =>
      "invalid type: " ++ found.description ++ ", expected " ++ wanted
  | .missing field => "missing field `" ++ field ++ "`"
  | .duplicate field => "duplicate field `" ++ field ++ "`"
  | .unknown member => "unknown field `" ++ member ++ "`"
  | .tooFew count shape wanted =>
      "invalid length " ++ toString count ++ ", expected struct " ++ shape ++ " with " ++
        toString wanted ++ (if wanted = 1 then " element" else " elements")
  | .tooMany count =>
      "invalid length " ++ toString count ++ ", expected fewer elements in array"

/-- Whether a field of the kind may hold a value. -/
def FieldKind.allows : FieldKind → Json → Bool
  | .text, .string _ => true
  | .textOrNull, .string _ => true
  | .textOrNull, .null => true
  | .members, .object _ => true
  | .any, _ => true
  | _, _ => false

/-- What a field of the kind should hold. -/
def FieldKind.wanted : FieldKind → String
  | .members => "a map"
  | _ => "a string"

/-- The fields found so far, each under its own name. -/
abbrev Fields := List (String × Json)

namespace Shape

/-- The field that a member's name stands for. -/
def field? (s : Shape) (name : String) : Option Field :=
  s.fields.find? fun f => f.name == name || f.aliases.contains name

/-- Adds a field with its value. -/
def addField (found : Fields) (f : Field) (value : Json) : Except ShapeFault Fields :=
  if f.kind.allows value then .ok ((f.name, value) :: found)
  else .error (.wrongKind value f.kind.wanted)

/-- Adds a member of an object. -/
def addMember (s : Shape) (found : Fields) (member : String × Json) : Except ShapeFault Fields :=
  match s.field? member.1 with
  | none => if s.isClosed then .error (.unknown member.1) else .ok found
  | some f =>
      if (found.lookup f.name).isSome then .error (.duplicate f.name)
      else addField found f member.2

/-- The fields of an object. -/
def readMembers (s : Shape) (members : List (String × Json)) : Except ShapeFault Fields := do
  let found ← members.foldlM s.addMember []
  match s.fields.find? fun f =>
      f.presence == .everywhere && (found.lookup f.name).isNone with
  | some f => .error (.missing f.name)
  | none => .ok found

/-- The fields of an array of `count` items, from the field at `index` on. -/
def readItems (s : Shape) (form : Form) (count index : Nat) (found : Fields) :
    List Field → List Json → Except ShapeFault Fields
  | [], [] => .ok found
  | [], _ :: _ => if form.allowsExtraItems then .ok found else .error (.tooMany count)
  | f :: fields, [] =>
      if f.presence == .nowhere then readItems s form count (index + 1) found fields []
      else .error (.tooFew index s.name s.fields.length)
  | f :: fields, item :: items => do
      readItems s form count (index + 1) (← addField found f item) fields items

/-- The fields of a value. -/
def read (s : Shape) (form : Form) : Json → Except ShapeFault Fields
  | .object members => s.readMembers members
  | .array items => s.readItems form items.length 0 [] s.fields items
  | value => .error (.wrongKind value ("struct " ++ s.name))

end Shape

/-- A field that holds a text. -/
def Fields.text? (found : Fields) (name : String) : Option String :=
  match found.lookup name with
  | some (.string s) => some s
  | _ => none

/-- The members that a field holds. -/
def Fields.members (found : Fields) (name : String) : List (String × Json) :=
  match found.lookup name with
  | some (.object members) => members
  | _ => []

/-- The value that a field holds, unless it is null. -/
def Fields.value? (found : Fields) (name : String) : Option Json :=
  match found.lookup name with
  | some .null => none
  | some value => some value
  | none => none

/-- What a field holds, read by `f`. -/
def Fields.get? {α : Type} (found : Fields) (name : String) (f : Json → Option α) : Option α :=
  (found.lookup name).bind f

/-- JSON itself: no extra items, and null for nothing. -/
def jsonForm : Form where
  allowsExtraItems := false
  isNothing
    | .null => true
    | _ => false

/-- The name of one of several alternatives: a text, or an object with that name alone whose value
stands for nothing. -/
def alternative? (form : Form) : Json → Option String
  | .string s => some s
  | .object [(name, value)] => if form.isNothing value then some name else none
  | _ => none

/-- The items of an array, each read by `f`. -/
def itemsOf? {α : Type} (f : Json → Option α) : Json → Option (List α)
  | .array items => items.mapM f
  | _ => none

/-- The text of a string. -/
def string? : Json → Option String
  | .string s => some s
  | _ => none

/-- The texts of an array. -/
def strings? : Json → Option (List String) := itemsOf? string?

/-- The number that a value is, if it is natural and fits sixty-four bits. -/
def count? : Json → Option Nat
  | .number (.integer n) => (IntRange.unsigned64.holding? n).map Int.toNat
  | _ => none

end TraceAudit.Json
