import TraceAudit.Json.Parse
import TraceAudit.Json.Shape
import TraceAudit.Text.AsciiCase
import TraceAudit.Text.Blank
import TraceAudit.Trace.Role

/-!
# Records

A record is one action that an agent took, read from one line of a trace: a JSON object with a
`role` and, under `meta`, a payload named for the role. `Record.ofLine` reads a line; what a line
of an unknown role holds besides is not looked at.
-/

namespace TraceAudit

structure HttpCall where
  method : String
  url : String
  /-- The headers, sorted by name. -/
  headers : List (String × Json)
  body : Option Json
  deriving Repr

/-- A command sent to a data store. -/
structure Command where
  /-- The command with its arguments, if they are given with it. -/
  text : String
  /-- What the command is about: a key, a bucket, a collection or a database. -/
  target : Option String
  deriving DecidableEq, Repr

inductive Payload where
  | http (call : HttpCall)
  | sql (query : String)
  | command (c : Command)
  /-- The payload of a role that no rule is about. -/
  | uncovered
  deriving Repr

structure Record where
  /-- The number of the line, the first line being line one. -/
  line : Nat
  traceId : Option String
  role : Role
  payload : Payload
  deriving Repr

/-- Why a line holds no record. -/
inductive LineFault where
  | notUtf8
  /-- What the JSON reader objects to, and where, is not kept. -/
  | notJson
  | notAnObject
  | noRole
  | noPayload (role : String)
  | badPayload (role : String) (fault : Json.ShapeFault)
  deriving Repr

/-- What is wrong with which line. -/
structure LineError where
  line : Nat
  fault : LineFault
  deriving Repr

namespace LineFault

/-- The wording of a fault, after the number of the line. -/
def message : LineFault → String
  | .notUtf8 => "not valid UTF-8"
  | .notJson => "invalid JSON"
  | .notAnObject => "record is not a JSON object"
  | .noRole => "missing or non-string 'role'"
  | .noPayload role => "missing 'meta." ++ role ++ "' payload"
  | .badPayload role fault => "invalid " ++ role ++ " payload: " ++ fault.message

end LineFault

/-- The wording of an error. -/
def LineError.message (e : LineError) : String :=
  "line " ++ toString e.line ++ ": " ++ e.fault.message

/-- The text that a value has as a header or a form field: null and structures have none. -/
def Json.scalarText : Json → String
  | .string s => s
  | .number n => n.text
  | .bool b => toString b
  | .null => ""
  | .array _ => ""
  | .object _ => ""

namespace HttpCall

/-- The methods that change something. -/
def mutatingMethods : List String := ["POST", "PUT", "PATCH"]

/-- Whether the call changes something. -/
def isMutating (c : HttpCall) : Bool :=
  mutatingMethods.contains (Text.upper (Text.trim c.method))

/-- The values sent under a header's name, in the order of the names as they are written. One
header may be there under several spellings of its name. -/
def headerValues (c : HttpCall) (name : String) : List String :=
  (c.headers.filter fun h => Text.sameIgnoringCase (Text.trim h.1) name).map (·.2.scalarText)

/-- The shape of a call. -/
def shape : Json.Shape where
  name := "HttpCall"
  fields := [
    ⟨"method", [], .text, .nowhere⟩,
    ⟨"url", [], .text, .everywhere⟩,
    ⟨"headers", [], .members, .nowhere⟩,
    ⟨"body", [], .any, .nowhere⟩]
  isClosed := false

/-- The call with the fields found. The method is `GET` unless it is given. -/
def ofFields (found : Json.Fields) : HttpCall where
  method := (found.text? "method").getD "GET"
  url := (found.text? "url").getD ""
  headers := found.members "headers"
  body := found.value? "body"

end HttpCall

namespace Command

/-- The first word of the command. -/
def name (c : Command) : String :=
  (Text.words c.text).head?.getD ""

/-- The shape of a command. -/
def shape : Json.Shape where
  name := "CommandCall"
  fields := [
    ⟨"command", ["op"], .text, .everywhere⟩,
    ⟨"target", ["key", "bucket", "collection", "database"], .textOrNull, .nowhere⟩]
  isClosed := false

/-- The command with the fields found. -/
def ofFields (found : Json.Fields) : Command where
  text := (found.text? "command").getD ""
  target := found.text? "target"

end Command

/-- The shape of the payload of a query. -/
def Payload.queryShape : Json.Shape where
  name := "SqlStatement"
  fields := [⟨"query", ["sql"], .text, .everywhere⟩]
  isClosed := false

/-- The payload of a role. -/
def Payload.read (role : Role) (value : Json) : Except Json.ShapeFault Payload :=
  match role with
  | .http => return .http (.ofFields (← HttpCall.shape.read Json.jsonForm value))
  | .sql => do
      let found ← queryShape.read Json.jsonForm value
      return .sql ((found.text? "query").getD "")
  | .store _ => return .command (.ofFields (← Command.shape.read Json.jsonForm value))
  | .other _ => return .uncovered

namespace Record

/-- The role that a record names. -/
def role? (record : Json) : Option Role :=
  match record.member? "role" with
  | some (.string tag) => if Text.isBlankText tag then none else some (.ofTag (Text.trim tag))
  | _ => none

/-- The trace that a record belongs to: a text, or the text of a number. -/
def traceId? (record : Json) : Option String :=
  match record.member? "trace_id" with
  | some (.string s) => some s
  | some (.number n) => some n.text
  | _ => none

/-- The value that a record gives for a role's payload, unless it is null. -/
def rawPayload? (record : Json) (role : Role) : Option Json :=
  match (record.member? "meta").bind (·.member? role.tag) with
  | some .null => none
  | some value => some value
  | none => none

/-- The record that an object holds. -/
def ofObject (line : Nat) (record : Json) : Except LineFault Record := do
  let some role := role? record | throw .noRole
  let traceId := traceId? record
  if role.isKnown then
    let some raw := rawPayload? record role | throw (.noPayload role.tag)
    match Payload.read role raw with
    | .error fault => throw (.badPayload role.tag fault)
    | .ok payload => return ⟨line, traceId, role, payload⟩
  else return ⟨line, traceId, role, .uncovered⟩

/-- The record that a line holds. -/
def ofLine (line : Nat) (text : String) : Except LineError Record :=
  let result : Except LineFault Record := match Json.decode? text with
    | none => .error .notJson
    | some (.object members) => ofObject line (.object members)
    | some _ => .error .notAnObject
  result.mapError (⟨line, ·⟩)

end Record
end TraceAudit
