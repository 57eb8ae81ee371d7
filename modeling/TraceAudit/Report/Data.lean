import TraceAudit.Json.Parse
import TraceAudit.Json.Print
import TraceAudit.Json.Shape
import TraceAudit.Report.Basic

/-!
# Reports as data

How reports are written as JSON and read back. Members are written in the order of the fields; when
a report is read, members that are no fields are passed over.
-/

namespace TraceAudit

/-- A shape of the values in a report. -/
def reportShape (name : String) (fields : List Json.Field) : Json.Shape :=
  ⟨name, fields, false⟩

/-- A field that has to be there. -/
def requiredField (name : String) : Json.Field := ⟨name, [], .any, .everywhere⟩

/-- A field that an object may be without. -/
def nullableField (name : String) : Json.Field := ⟨name, [], .any, .inArrays⟩

namespace Json

/-- A text, or null. -/
def ofText? : Option String → Json
  | some s => .string s
  | none => .null

/-- Several texts. -/
def ofTexts (texts : List String) : Json := .array (texts.map .string)

/-- A text, or nothing for null. -/
def nullableString? : Option Json → Option (Option String)
  | none => some none
  | some .null => some none
  | some (.string s) => some (some s)
  | some _ => none

/-- An integer that fits thirty-two bits. -/
def smallInteger? : Json → Option Int
  | .number (.integer n) => IntRange.signed32.holding? n
  | _ => none

end Json

/-- The severity that a value names. -/
def Severity.ofJson? (value : Json) : Option Severity :=
  (Json.alternative? Json.jsonForm value).bind Severity.ofName?

namespace Finding

/-- A finding as data. -/
def toJson (f : Finding) : Json :=
  .object [
    ("severity", .string f.severity.name),
    ("category", .string f.category),
    ("title", .string f.title),
    ("count", .ofNat f.count),
    ("example", .string f.sample),
    ("remediation", .string f.remediation),
    ("subjects", .ofTexts f.subjects.toList)]

/-- The shape of a finding. -/
def shape : Json.Shape :=
  reportShape "Finding" (["severity", "category", "title", "count", "example", "remediation",
    "subjects"].map requiredField)

/-- The finding that a value is. -/
def ofJson? (value : Json) : Option Finding := do
  let found ← (shape.read Json.jsonForm value).toOption
  return {
    severity := ← found.get? "severity" Severity.ofJson?
    category := ← found.get? "category" Json.string?
    title := ← found.get? "title" Json.string?
    count := ← found.get? "count" Json.count?
    sample := ← found.get? "example" Json.string?
    remediation := ← found.get? "remediation" Json.string?
    subjects := .ofList (← found.get? "subjects" Json.strings?) }

end Finding

namespace RoleCounts

def toJson (c : RoleCounts) : Json :=
  .object [
    ("http", .ofNat c.http),
    ("sql", .ofNat c.sql),
    ("redis", .ofNat c.redis),
    ("mongo", .ofNat c.mongo),
    ("s3", .ofNat c.s3),
    ("other", .ofNat c.other)]

def shape : Json.Shape :=
  reportShape "RoleCounts" (["http", "sql", "redis", "mongo", "s3", "other"].map requiredField)

def ofJson? (value : Json) : Option RoleCounts := do
  let found ← (shape.read Json.jsonForm value).toOption
  return {
    http := ← found.get? "http" Json.count?
    sql := ← found.get? "sql" Json.count?
    redis := ← found.get? "redis" Json.count?
    mongo := ← found.get? "mongo" Json.count?
    s3 := ← found.get? "s3" Json.count?
    other := ← found.get? "other" Json.count? }

end RoleCounts

namespace GapCounts

def toJson (c : GapCounts) : Json :=
  .object [
    (Gap.unknownRole.name, .ofNat c.unknownRole),
    (Gap.uncoveredHost.name, .ofNat c.uncoveredHost),
    (Gap.unanalyzableSql.name, .ofNat c.unanalyzableSql)]

def shape : Json.Shape :=
  reportShape "GapCounts"
    ([Gap.unknownRole, .uncoveredHost, .unanalyzableSql].map (requiredField ·.name))

def ofJson? (value : Json) : Option GapCounts := do
  let found ← (shape.read Json.jsonForm value).toOption
  return {
    unknownRole := ← found.get? Gap.unknownRole.name Json.count?
    uncoveredHost := ← found.get? Gap.uncoveredHost.name Json.count?
    unanalyzableSql := ← found.get? Gap.unanalyzableSql.name Json.count? }

end GapCounts

namespace Coverage

/-- A coverage as data. -/
def toJson (c : Coverage) : Json :=
  .object [
    ("records_scanned", .ofNat c.records),
    ("parse_errors", .ofNat c.unparsed),
    ("by_role", c.roles.toJson),
    ("analyzed", .ofNat c.analyzed),
    ("not_applicable", .ofNat c.notApplicable),
    ("gaps", c.gaps.toJson)]

/-- The shape of a coverage. -/
def shape : Json.Shape :=
  reportShape "Coverage" (["records_scanned", "parse_errors", "by_role", "analyzed",
    "not_applicable", "gaps"].map requiredField)

/-- The coverage that a value is. -/
def ofJson? (value : Json) : Option Coverage := do
  let found ← (shape.read Json.jsonForm value).toOption
  return {
    records := ← found.get? "records_scanned" Json.count?
    unparsed := ← found.get? "parse_errors" Json.count?
    roles := ← found.get? "by_role" RoleCounts.ofJson?
    analyzed := ← found.get? "analyzed" Json.count?
    notApplicable := ← found.get? "not_applicable" Json.count?
    gaps := ← found.get? "gaps" GapCounts.ofJson? }

end Coverage

namespace Classification

/-- A verdict as data. -/
def toJson (c : Classification) : Json :=
  .object [
    ("level", .string c.level.name),
    ("highest_severity", .ofText? (c.worst.map Severity.name)),
    ("blocker_categories", .ofNat c.blockers),
    ("exit_code", .number (.integer c.exitCode))]

/-- The shape of a verdict. -/
def shape : Json.Shape :=
  reportShape "ClassificationInfo" [requiredField "level", nullableField "highest_severity",
    requiredField "blocker_categories", requiredField "exit_code"]

/-- The worst severity that a verdict gives, null or nothing standing for none. -/
def worstOf? : Option Json → Option (Option Severity)
  | none => some none
  | some .null => some none
  | some value => (Severity.ofJson? value).map some

/-- The verdict that a value is. It need not fit any findings. -/
def ofJson? (value : Json) : Option Classification := do
  let found ← (shape.read Json.jsonForm value).toOption
  let level ← found.get? "level" (Json.alternative? Json.jsonForm)
  return {
    level := ← Level.ofName? level
    worst := ← worstOf? (found.lookup "highest_severity")
    blockers := ← found.get? "blocker_categories" Json.count?
    exitCode := ← found.get? "exit_code" Json.smallInteger? }

end Classification

namespace Tool

def toJson (t : Tool) : Json :=
  .object [
    ("name", .string t.name),
    ("version", .string t.version),
    ("commit", .ofText? t.commit)]

def shape : Json.Shape :=
  reportShape "ToolInfo" [requiredField "name", requiredField "version", nullableField "commit"]

def ofJson? (value : Json) : Option Tool := do
  let found ← (shape.read Json.jsonForm value).toOption
  return {
    name := ← found.get? "name" Json.string?
    version := ← found.get? "version" Json.string?
    commit := ← Json.nullableString? (found.lookup "commit") }

end Tool

namespace InputInfo

def toJson (i : InputInfo) : Json :=
  .object [("source", .string i.source), ("sha256", .string i.sha256)]

def shape : Json.Shape :=
  reportShape "InputInfo" (["source", "sha256"].map requiredField)

def ofJson? (value : Json) : Option InputInfo := do
  let found ← (shape.read Json.jsonForm value).toOption
  return {
    source := ← found.get? "source" Json.string?
    sha256 := ← found.get? "sha256" Json.string? }

end InputInfo

namespace RulesInfo

def toJson (r : RulesInfo) : Json :=
  .object [
    ("catalog_version", .string r.catalogVersion),
    ("providers", .ofTexts r.providers),
    ("destructive_commands", .ofNat r.commands)]

def shape : Json.Shape :=
  reportShape "RulesInfo" (["catalog_version", "providers", "destructive_commands"].map
    requiredField)

def ofJson? (value : Json) : Option RulesInfo := do
  let found ← (shape.read Json.jsonForm value).toOption
  return {
    catalogVersion := ← found.get? "catalog_version" Json.string?
    providers := ← found.get? "providers" Json.strings?
    commands := ← found.get? "destructive_commands" Json.count? }

end RulesInfo

namespace Report

/-- A report as data. -/
def toJson (r : Report) : Json :=
  .object [
    ("schema_version", .string r.schemaVersion),
    ("tool", r.tool.toJson),
    ("input", r.input.toJson),
    ("rules", r.rules.toJson),
    ("findings", .array (r.findings.map Finding.toJson)),
    ("coverage", r.coverage.toJson),
    ("classification", r.classification.toJson)]

/-- The shape of a report. -/
def shape : Json.Shape :=
  reportShape "Report" (["schema_version", "tool", "input", "rules", "findings", "coverage",
    "classification"].map requiredField)

/-- The report that a value is. -/
def ofJson? (value : Json) : Option Report := do
  let found ← (shape.read Json.jsonForm value).toOption
  return {
    schemaVersion := ← found.get? "schema_version" Json.string?
    tool := ← found.get? "tool" Tool.ofJson?
    input := ← found.get? "input" InputInfo.ofJson?
    rules := ← found.get? "rules" RulesInfo.ofJson?
    findings := ← found.get? "findings" (Json.itemsOf? Finding.ofJson?)
    coverage := ← found.get? "coverage" Coverage.ofJson?
    classification := ← found.get? "classification" Classification.ofJson? }

/-- A report as JSON for people and programs. -/
def pretty (r : Report) : String := r.toJson.pretty

/-- The report that a JSON text holds. -/
def parse? (text : String) : Option Report :=
  (Json.parse? text).bind ofJson?

end Report
end TraceAudit
