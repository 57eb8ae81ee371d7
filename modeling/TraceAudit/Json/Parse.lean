import TraceAudit.Json.Token

/-!
# Reading JSON

The grammatical half of reading JSON: a machine takes the tokens one by one, keeping the open
containers on a stack. At most 127 containers may be open at once.
-/

namespace TraceAudit.Json

/-- An open container, with what it already holds, last first. -/
inductive Frame where
  | array (items : List Json)
  | object (members : List (String × Json))
  | field (members : List (String × Json)) (name : String)
  deriving Repr

/-- What may come next. -/
inductive Expect where
  | value
  | firstItem
  | firstName
  | name
  | colon
  | separator
  | nothing (result : Json)
  deriving Repr

structure Machine where
  stack : List Frame
  expect : Expect
  deriving Repr

/-- The number of containers that may be open at once. -/
def maxDepth : Nat := 127

/-- The machine before the first token. -/
def Machine.start : Machine := ⟨[], .value⟩

/-- A finished value goes into the innermost open container, or is the result. -/
def Machine.finish (stack : List Frame) (v : Json) : Option Machine :=
  match stack with
  | [] => some ⟨[], .nothing v⟩
  | .array items :: rest => some ⟨.array (v :: items) :: rest, .separator⟩
  | .field members name :: rest => some ⟨.object ((name, v) :: members) :: rest, .separator⟩
  | .object _ :: _ => none

/-- Opens a container, if the depth allows. -/
def Machine.enter (stack : List Frame) (frame : Frame) (expect : Expect) : Option Machine :=
  if stack.length < maxDepth then some ⟨frame :: stack, expect⟩ else none

/-- A token where a value may start. -/
def Machine.beginValue (stack : List Frame) : Token → Option Machine
  | .null => finish stack .null
  | .bool b => finish stack (.bool b)
  | .number n => finish stack (.number n)
  | .string s => finish stack (.string s)
  | .openBracket => enter stack (.array []) .firstItem
  | .openBrace => enter stack (.object []) .firstName
  | _ => none

/-- A token where the innermost container may be closed. -/
def Machine.close (stack : List Frame) : Token → Option Machine
  | .closeBracket =>
      match stack with
      | .array items :: rest => finish rest (.array items.reverse)
      | _ => none
  | .closeBrace =>
      match stack with
      | .object members :: rest => finish rest (.object members.reverse)
      | _ => none
  | _ => none

/-- A token where a name must come. -/
def Machine.beginField (stack : List Frame) : Token → Option Machine
  | .string name =>
      match stack with
      | .object members :: rest => some ⟨.field members name :: rest, .colon⟩
      | _ => none
  | _ => none

/-- One token. -/
def Machine.step (m : Machine) (t : Token) : Option Machine :=
  match m.expect with
  | .value => beginValue m.stack t
  | .firstItem => if t = .closeBracket then close m.stack t else beginValue m.stack t
  | .firstName => if t = .closeBrace then close m.stack t else beginField m.stack t
  | .name => beginField m.stack t
  | .colon => if t = .colon then some ⟨m.stack, .value⟩ else none
  | .separator =>
      if t = .comma then
        match m.stack with
        | .array _ :: _ => some ⟨m.stack, .value⟩
        | .object _ :: _ => some ⟨m.stack, .name⟩
        | _ => none
      else close m.stack t
  | .nothing _ => none

/-- All tokens. -/
def Machine.run : Machine → List Token → Option Machine
  | m, [] => some m
  | m, t :: rest => (m.step t).bind fun m => m.run rest

/-- The value that a text writes, members as written. -/
def parse? (s : String) : Option Json :=
  match (scan s).bind Machine.start.run with
  | some ⟨_, .nothing v⟩ => some v
  | _ => none

/-- The value that a text writes, read as data. -/
def decode? (s : String) : Option Json :=
  (parse? s).map canonical

end TraceAudit.Json
