import TraceAudit.Analysis.Outcome
import TraceAudit.Rules.RuleSet
import TraceAudit.Trace.Record
import TraceAudit.Web.Form
import TraceAudit.Web.Target

/-!
# Payments

A request that changes something at a payment provider has to carry a usable key. A request is a
provider's by the registrable domain of its host alone, so a host that only looks like one is
covered by no rule.
-/

namespace TraceAudit

/-- The scalar of a member of an object, if it is there. -/
def Json.memberText? (value : Json) (name : String) : Option String :=
  (value.member? name).map Json.scalarText

/-- A field of a body: of an object, of an object written as a text, or of a form. -/
def bodyField? (body : Json) (name : String) : Option String :=
  match body with
  | .object members => (Json.object members).memberText? name
  | .string text =>
      match Json.decode? text with
      | some (.object members) => (Json.object members).memberText? name
      | _ => Web.Form.value? text name
  | _ => none

/-- The values that a call sends where a vendor looks for the key. -/
def HttpCall.keyValues (call : HttpCall) (v : Vendor) : List String :=
  match v.location with
  | .header => call.headerValues v.keyName
  | .bodyField => (call.body.bind (bodyField? · v.keyName)).toList

/-- What is wrong with the values sent, of which none is usable. -/
def keyProblem (v : Vendor) : List String → String
  | [] => v.keyName ++ " missing"
  | value :: _ => "Invalid idempotency key " ++ Text.quoted (Text.trim value)

/-- The detection of a payment without a usable key. -/
def paymentDetection (call : HttpCall) (v : Vendor) (values : List String) : Detection where
  rule := paymentRule
  evidence := v.provider ++ ": " ++ Text.upper (Text.trim call.method) ++ " " ++
    Text.trim call.url ++ " (" ++ keyProblem v values ++ ")"
  subject := some v.provider

/-- The vendor of a target. -/
def RuleSet.vendorOf? (rules : RuleSet) (target : Web.Target) : Option Vendor :=
  target.registrable.bind rules.vendor?

/-- The outcome for a call to a vendor's host. One usable value is enough. -/
def checkVendorCall (call : HttpCall) (v : Vendor) (path : String) : Outcome :=
  if call.isMutating && v.coversPath path then
    let values := call.keyValues v
    if values.any (!v.isPlaceholder ·) then .analyzed []
    else .analyzed [paymentDetection call v values]
  else .notApplicable

/-- The outcome for a call. -/
def checkPayment (call : HttpCall) (rules : RuleSet) : Outcome :=
  match Web.Target.ofUrl? call.url with
  | none => .gap .uncoveredHost
  | some target =>
      match rules.vendorOf? target with
      | none => .gap .uncoveredHost
      | some v => checkVendorCall call v target.path

end TraceAudit
