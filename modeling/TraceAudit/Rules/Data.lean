import TraceAudit.Json.Shape
import TraceAudit.Rules.RuleSet
import TraceAudit.Toml.Document

/-!
# Rules as data

How rules are read from the data of a file and how they are written. A rules file is a TOML
document; members that are no fields are refused everywhere in it.
-/

namespace TraceAudit

/-- The form of rules files: what goes on after the last field of an array is passed over, and an
empty table or array stands for nothing. -/
def tomlForm : Json.Form where
  allowsExtraItems := true
  isNothing
    | .object [] => true
    | .array [] => true
    | _ => false

namespace Vendor

/-- The shape of a vendor rule. -/
def shape : Json.Shape where
  name := "VendorRule"
  fields := [
    ⟨"provider_name", [], .text, .everywhere⟩,
    ⟨"host_allowlist", [], .any, .everywhere⟩,
    ⟨"path_prefixes", [], .any, .everywhere⟩,
    ⟨"idempotency_location", [], .any, .everywhere⟩,
    ⟨"key_name", [], .text, .everywhere⟩,
    ⟨"invalid_placeholder_values", [], .any, .nowhere⟩]
  isClosed := true

/-- The vendor rule that a value is. -/
def ofJson? (form : Json.Form) (value : Json) : Option Vendor := do
  let found ← (shape.read form value).toOption
  let placeholders ← match found.lookup "invalid_placeholder_values" with
    | none => some []
    | some v => Json.strings? v
  let location ← found.get? "idempotency_location" (Json.alternative? form)
  return {
    provider := ← found.get? "provider_name" Json.string?
    domains := ← found.get? "host_allowlist" Json.strings?
    pathStarts := ← found.get? "path_prefixes" Json.strings?
    location := ← KeyLocation.ofName? location
    keyName := ← found.get? "key_name" Json.string?
    placeholders }

/-- A vendor rule as data. -/
def toJson (v : Vendor) : Json :=
  .object [
    ("provider_name", .string v.provider),
    ("host_allowlist", .array (v.domains.map .string)),
    ("path_prefixes", .array (v.pathStarts.map .string)),
    ("idempotency_location", .string v.location.name),
    ("key_name", .string v.keyName),
    ("invalid_placeholder_values", .array (v.placeholders.map .string))]

end Vendor

namespace CommandRule

/-- The shape of a command rule. -/
def shape : Json.Shape where
  name := "DestructiveCommand"
  fields := [
    ⟨"system", [], .any, .everywhere⟩,
    ⟨"command", [], .text, .everywhere⟩,
    ⟨"category", [], .text, .everywhere⟩,
    ⟨"severity", [], .any, .nowhere⟩,
    ⟨"title", [], .text, .everywhere⟩,
    ⟨"remediation", [], .text, .everywhere⟩]
  isClosed := true

/-- The command rule that a value is. It blocks unless it says otherwise. -/
def ofJson? (form : Json.Form) (value : Json) : Option CommandRule := do
  let found ← (shape.read form value).toOption
  let severity ← match found.lookup "severity" with
    | none => some Severity.blocker
    | some v => (Json.alternative? form v).bind Severity.ofName?
  return {
    store := ← Store.ofName? (← found.get? "system" (Json.alternative? form))
    command := ← found.get? "command" Json.string?
    category := ← found.get? "category" Json.string?
    severity
    title := ← found.get? "title" Json.string?
    remediation := ← found.get? "remediation" Json.string? }

/-- A command rule as data. -/
def toJson (c : CommandRule) : Json :=
  .object [
    ("system", .string c.store.name),
    ("command", .string c.command),
    ("category", .string c.category),
    ("severity", .string c.severity.name),
    ("title", .string c.title),
    ("remediation", .string c.remediation)]

end CommandRule

namespace RulesFile

/-- The shape of a rules file. -/
def shape : Json.Shape where
  name := "RulesFile"
  fields := [
    ⟨"replace_builtin", [], .any, .nowhere⟩,
    ⟨"vendor", [], .any, .nowhere⟩,
    ⟨"destructive", [], .any, .nowhere⟩]
  isClosed := true

/-- The rules file that a value is. -/
def ofJson? (value : Json) : Option RulesFile := do
  let found ← (shape.read tomlForm value).toOption
  let replacesBuiltin ← match found.lookup "replace_builtin" with
    | none => some false
    | some (.bool b) => some b
    | some _ => none
  let entries {α : Type} (name : String) (read : Json → Option α) : Option (List α) :=
    match found.lookup name with
    | none => some []
    | some v => Json.itemsOf? read v
  return {
    replacesBuiltin
    vendors := ← entries "vendor" (Vendor.ofJson? tomlForm)
    commands := ← entries "destructive" (CommandRule.ofJson? tomlForm) }

/-- The rules file that a TOML document is. -/
def ofToml? (document : String) : Option RulesFile :=
  (Toml.parse? document).bind ofJson?

end RulesFile

namespace RuleSet

/-- The rules of a TOML document. -/
def ofToml (document : String) : Except RulesError RuleSet :=
  match RulesFile.ofToml? document with
  | none => .error .parse
  | some file => ofFile file

/-- A rule set as data. -/
def toJson (r : RuleSet) : Json :=
  .object [
    ("vendors", .array (r.vendors.map Vendor.toJson)),
    ("destructive", .array (r.commands.map CommandRule.toJson))]

end RuleSet
end TraceAudit
