import TraceAudit.Number.Shortest

/-!
# JSON values

A value keeps the members of an object in the order in which they were written; `canonical` gives
the reading of a text as data, in which an object has its members sorted by name and the last of
several members with one name stands.
-/

namespace TraceAudit

/-- A number is an integer of at most sixty-four bits, or else a binary64 number. -/
inductive Json.Number where
  | integer (value : Int)
  | real (value : Binary64)
  deriving DecidableEq, Repr

inductive Json where
  | null
  | bool (value : Bool)
  | number (value : Json.Number)
  | string (value : String)
  | array (items : List Json)
  | object (members : List (String × Json))
  deriving Repr

namespace Json

/-- Reals are positional from `10 ^ -5` up to below `10 ^ 16`. -/
def realFormat : Binary64.DecimalFormat := ⟨-5, 15⟩

/-- The text of a number. -/
def Number.text : Number → String
  | .integer n => toString n
  | .real x => x.text realFormat

/-- A natural number as a value. -/
def ofNat (n : Nat) : Json := .number (.integer n)

/-- Members sorted by name with one more, which replaces a member of its name. -/
def insertMember (name : String) (value : Json) :
    List (String × Json) → List (String × Json)
  | [] => [(name, value)]
  | (n, v) :: rest =>
      if name < n then (name, value) :: (n, v) :: rest
      else if name = n then (name, value) :: rest
      else (n, v) :: insertMember name value rest

mutual
/-- The value with every object sorted by name, the last member of each name kept. -/
def canonical : Json → Json
  | .array items => .array (canonicalItems items)
  | .object members => .object (canonicalMembers [] members)
  | .null => .null
  | .bool b => .bool b
  | .number n => .number n
  | .string s => .string s

/-- The items, each made canonical. -/
def canonicalItems : List Json → List Json
  | [] => []
  | item :: rest => canonical item :: canonicalItems rest

/-- The members, each made canonical, put one by one among those already sorted. -/
def canonicalMembers (sorted : List (String × Json)) :
    List (String × Json) → List (String × Json)
  | [] => sorted
  | (name, value) :: rest => canonicalMembers (insertMember name (canonical value) sorted) rest
end

/-- The member of a name, if the value is an object that has one. -/
def member? (name : String) : Json → Option Json
  | .object members => members.lookup name
  | _ => none

end Json
end TraceAudit
