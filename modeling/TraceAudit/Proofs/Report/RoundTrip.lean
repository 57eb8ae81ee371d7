import TraceAudit.Program.Session
import TraceAudit.Proofs.Json.RoundTrip
import TraceAudit.Proofs.Report.ClosedForm

/-!
# Reports read back

A report is written with a member for each field, and each part is read back from its own text: a
name gives the severity or level that has it, an ascending list gives the set that it was made of,
and null gives nothing. So a report whose counts fit sixty-four bits is read back as it was, and
all that is made of it is the same.
-/

namespace TraceAudit

namespace Json

/-- Whether a count fits sixty-four bits. -/
def IsCount (n : Nat) : Prop := n ≤ maxSignificand

instance (n : Nat) : Decidable (IsCount n) :=
  inferInstanceAs (Decidable (_ ≤ _))

theorem count?_ofNat {n : Nat} (count : IsCount n) : count? (.ofNat n) = some n := by
  have held : IntRange.unsigned64.holding? (n : Int) = some (n : Int) := by
    refine IntRange.holding?_eq_some_iff.2 ⟨rfl, Int.natCast_nonneg n, ?_⟩
    exact Int.ofNat_le.2 count
  rw [ofNat, count?, held]
  rfl

theorem itemsOf?_map {α : Type} {read : Json → Option α} {write : α → Json} {items : List α}
    (each : ∀ item ∈ items, read (write item) = some item) :
    itemsOf? read (.array (items.map write)) = some items := by
  rw [itemsOf?]
  induction items with
  | nil => rfl
  | cons item rest ih =>
      have here := each item List.mem_cons_self
      have later := ih fun other listed => each other (List.mem_cons_of_mem item listed)
      rw [List.map_cons, List.mapM_cons, here, later]
      rfl

theorem strings?_ofTexts (texts : List String) : strings? (.ofTexts texts) = some texts :=
  itemsOf?_map fun _ _ => rfl

theorem nullableString?_ofText? (text : Option String) :
    nullableString? (some (.ofText? text)) = some text := by
  cases text <;> rfl

@[simp] theorem fits_ofNat {n : Nat} (count : IsCount n) (room : Nat) : Fits room (.ofNat n) := by
  refine .integer ⟨?_, Int.ofNat_le.2 count⟩
  exact Int.le_trans (by decide) (Int.natCast_nonneg n)

@[simp] theorem fits_ofText? (text : Option String) (room : Nat) : Fits room (.ofText? text) := by
  cases text with
  | none => exact .null
  | some s => exact .string s

@[simp] theorem fits_ofTexts (texts : List String) (room : Nat) :
    Fits (room + 1) (.ofTexts texts) := by
  refine .array fun v listed => ?_
  obtain ⟨s, _, rfl⟩ := List.mem_map.1 listed
  exact .string s

end Json

open Json (IsCount Fits count?_ofNat strings?_ofTexts fits_ofNat)

/-- The set of the members of a set. -/
theorem NameSet.ofList_toList (s : NameSet) : NameSet.ofList s.toList = s :=
  eq_of_mem_iff fun _ => mem_ofList

theorem Severity.ofJson?_name (s : Severity) : ofJson? (.string s.name) = some s :=
  s.ofName?_name

/-! ## Parts of a report -/

namespace RoleCounts

/-- Counts of sixty-four bits each. -/
structure InRange (c : RoleCounts) : Prop where
  http : IsCount c.http
  sql : IsCount c.sql
  redis : IsCount c.redis
  mongo : IsCount c.mongo
  s3 : IsCount c.s3
  other : IsCount c.other

theorem InRange.ofJson?_toJson {c : RoleCounts} (inRange : c.InRange) :
    ofJson? c.toJson = some c :=
  calc ofJson? c.toJson
    _ = (Json.count? (.ofNat c.http)).bind fun http =>
        (Json.count? (.ofNat c.sql)).bind fun sql =>
        (Json.count? (.ofNat c.redis)).bind fun redis =>
        (Json.count? (.ofNat c.mongo)).bind fun mongo =>
        (Json.count? (.ofNat c.s3)).bind fun s3 =>
        (Json.count? (.ofNat c.other)).bind fun other =>
          some ⟨http, sql, redis, mongo, s3, other⟩ := rfl
    _ = some c := by
        rw [count?_ofNat inRange.http, count?_ofNat inRange.sql, count?_ofNat inRange.redis,
          count?_ofNat inRange.mongo, count?_ofNat inRange.s3, count?_ofNat inRange.other]
        rfl

theorem InRange.fits_toJson {c : RoleCounts} (inRange : c.InRange) (room : Nat) :
    Fits (room + 1) c.toJson := by
  simp [toJson, inRange.http, inRange.sql, inRange.redis, inRange.mongo, inRange.s3, inRange.other]

end RoleCounts

namespace GapCounts

/-- Counts of sixty-four bits each. -/
structure InRange (c : GapCounts) : Prop where
  unknownRole : IsCount c.unknownRole
  uncoveredHost : IsCount c.uncoveredHost
  unanalyzableSql : IsCount c.unanalyzableSql

theorem InRange.ofJson?_toJson {c : GapCounts} (inRange : c.InRange) :
    ofJson? c.toJson = some c :=
  calc ofJson? c.toJson
    _ = (Json.count? (.ofNat c.unknownRole)).bind fun unknownRole =>
        (Json.count? (.ofNat c.uncoveredHost)).bind fun uncoveredHost =>
        (Json.count? (.ofNat c.unanalyzableSql)).bind fun unanalyzableSql =>
          some ⟨unknownRole, uncoveredHost, unanalyzableSql⟩ := rfl
    _ = some c := by
        rw [count?_ofNat inRange.unknownRole, count?_ofNat inRange.uncoveredHost,
          count?_ofNat inRange.unanalyzableSql]
        rfl

theorem InRange.fits_toJson {c : GapCounts} (inRange : c.InRange) (room : Nat) :
    Fits (room + 1) c.toJson := by
  simp [toJson, inRange.unknownRole, inRange.uncoveredHost, inRange.unanalyzableSql]

end GapCounts

namespace Coverage

/-- Counts of sixty-four bits each. -/
structure InRange (c : Coverage) : Prop where
  records : IsCount c.records
  unparsed : IsCount c.unparsed
  roles : c.roles.InRange
  analyzed : IsCount c.analyzed
  notApplicable : IsCount c.notApplicable
  gaps : c.gaps.InRange

theorem InRange.ofJson?_toJson {c : Coverage} (inRange : c.InRange) :
    ofJson? c.toJson = some c :=
  calc ofJson? c.toJson
    _ = (Json.count? (.ofNat c.records)).bind fun records =>
        (Json.count? (.ofNat c.unparsed)).bind fun unparsed =>
        (RoleCounts.ofJson? c.roles.toJson).bind fun roles =>
        (Json.count? (.ofNat c.analyzed)).bind fun analyzed =>
        (Json.count? (.ofNat c.notApplicable)).bind fun notApplicable =>
        (GapCounts.ofJson? c.gaps.toJson).bind fun gaps =>
          some ⟨records, unparsed, roles, analyzed, notApplicable, gaps⟩ := rfl
    _ = some c := by
        rw [count?_ofNat inRange.records, count?_ofNat inRange.unparsed,
          inRange.roles.ofJson?_toJson, count?_ofNat inRange.analyzed,
          count?_ofNat inRange.notApplicable, inRange.gaps.ofJson?_toJson]
        rfl

theorem InRange.fits_toJson {c : Coverage} (inRange : c.InRange) (room : Nat) :
    Fits (room + 2) c.toJson := by
  simp [toJson, inRange.records, inRange.unparsed, inRange.roles.fits_toJson, inRange.analyzed,
    inRange.notApplicable, inRange.gaps.fits_toJson]

end Coverage

namespace Finding

theorem ofJson?_toJson {f : Finding} (inRange : IsCount f.count) :
    ofJson? f.toJson = some f :=
  calc ofJson? f.toJson
    _ = (Severity.ofJson? (.string f.severity.name)).bind fun severity =>
        (Json.count? (.ofNat f.count)).bind fun count =>
        (Json.strings? (.ofTexts f.subjects.toList)).bind fun names =>
          some { f with severity, count, subjects := .ofList names } := rfl
    _ = some f := by
        rw [Severity.ofJson?_name, count?_ofNat inRange, strings?_ofTexts]
        simp only [Option.bind_some, NameSet.ofList_toList]

theorem fits_toJson {f : Finding} (inRange : IsCount f.count) (room : Nat) :
    Fits (room + 2) f.toJson := by
  simp [toJson, inRange]

end Finding

namespace Classification

/-- A count of sixty-four bits and an exit code of thirty-two. -/
structure InRange (c : Classification) : Prop where
  blockers : IsCount c.blockers
  exitCode : IntRange.signed32.holding? c.exitCode = some c.exitCode

theorem worstOf?_name (worst : Option Severity) :
    worstOf? (some (.ofText? (worst.map Severity.name))) = some worst := by
  cases worst with
  | none => rfl
  | some s => exact congrArg (Option.map some) s.ofJson?_name

theorem InRange.ofJson?_toJson {c : Classification} (inRange : c.InRange) :
    ofJson? c.toJson = some c :=
  calc ofJson? c.toJson
    _ = (Level.ofName? c.level.name).bind fun level =>
        (worstOf? (some (.ofText? (c.worst.map Severity.name)))).bind fun worst =>
        (Json.count? (.ofNat c.blockers)).bind fun blockers =>
        (IntRange.signed32.holding? c.exitCode).bind fun exitCode =>
          some ⟨level, worst, blockers, exitCode⟩ := rfl
    _ = some c := by
        rw [Level.ofName?_name, worstOf?_name, count?_ofNat inRange.blockers, inRange.exitCode]
        rfl

theorem InRange.fits_toJson {c : Classification} (inRange : c.InRange) (room : Nat) :
    Fits (room + 1) c.toJson := by
  obtain ⟨_, low, high⟩ := IntRange.holding?_eq_some_iff.1 inRange.exitCode
  have word : Json.IsWord c.exitCode :=
    ⟨Int.le_trans (by decide) low, Int.le_trans high (by decide)⟩
  simp [toJson, inRange.blockers, Fits.integer word]

end Classification

theorem Tool.ofJson?_toJson (t : Tool) : ofJson? t.toJson = some t :=
  calc ofJson? t.toJson
    _ = (Json.nullableString? (some (.ofText? t.commit))).bind fun commit =>
          some { t with commit } := rfl
    _ = some t := by
        rw [Json.nullableString?_ofText?]
        rfl

theorem Tool.fits_toJson (t : Tool) (room : Nat) : Fits (room + 1) t.toJson := by
  simp [toJson]

theorem InputInfo.ofJson?_toJson (i : InputInfo) : ofJson? i.toJson = some i := rfl

theorem InputInfo.fits_toJson (i : InputInfo) (room : Nat) : Fits (room + 1) i.toJson := by
  simp [toJson]

theorem RulesInfo.ofJson?_toJson {r : RulesInfo} (inRange : IsCount r.commands) :
    ofJson? r.toJson = some r :=
  calc ofJson? r.toJson
    _ = (Json.strings? (.ofTexts r.providers)).bind fun providers =>
        (Json.count? (.ofNat r.commands)).bind fun commands =>
          some { r with providers, commands } := rfl
    _ = some r := by
        rw [strings?_ofTexts, count?_ofNat inRange]
        rfl

theorem RulesInfo.fits_toJson {r : RulesInfo} (inRange : IsCount r.commands) (room : Nat) :
    Fits (room + 2) r.toJson := by
  simp [toJson, inRange]

/-! ## Whole reports -/

namespace Report

/-- A report whose counts are of sixty-four bits each, and its exit code of thirty-two. -/
structure InRange (r : Report) : Prop where
  commands : IsCount r.rules.commands
  findings : ∀ f ∈ r.findings, IsCount f.count
  coverage : r.coverage.InRange
  classification : r.classification.InRange

theorem InRange.ofJson?_toJson {r : Report} (inRange : r.InRange) : ofJson? r.toJson = some r :=
  calc ofJson? r.toJson
    _ = (Tool.ofJson? r.tool.toJson).bind fun tool =>
        (InputInfo.ofJson? r.input.toJson).bind fun input =>
        (RulesInfo.ofJson? r.rules.toJson).bind fun rules =>
        (Json.itemsOf? Finding.ofJson? (.array (r.findings.map Finding.toJson))).bind
          fun findings =>
        (Coverage.ofJson? r.coverage.toJson).bind fun coverage =>
        (Classification.ofJson? r.classification.toJson).bind fun classification =>
          some ⟨r.schemaVersion, tool, input, rules, findings, coverage, classification⟩ := rfl
    _ = some r := by
        rw [r.tool.ofJson?_toJson, r.input.ofJson?_toJson,
          RulesInfo.ofJson?_toJson inRange.commands,
          Json.itemsOf?_map fun f listed => Finding.ofJson?_toJson (inRange.findings f listed),
          inRange.coverage.ofJson?_toJson, inRange.classification.ofJson?_toJson]
        rfl

theorem InRange.fits_toJson {r : Report} (inRange : r.InRange) : Fits 4 r.toJson := by
  have findings : Fits 3 (.array (r.findings.map Finding.toJson)) := by
    refine .array fun v listed => ?_
    obtain ⟨f, there, rfl⟩ := List.mem_map.1 listed
    exact Finding.fits_toJson (inRange.findings f there) 0
  simp [toJson, findings, r.tool.fits_toJson, r.input.fits_toJson,
    RulesInfo.fits_toJson inRange.commands, inRange.coverage.fits_toJson,
    inRange.classification.fits_toJson]

/-- What is printed of a report as JSON is read back as the report, and all that is made of what is
read is what is made of the report: its JSON, its text and the exit code. -/
theorem parse?_printed {r : Report} (inRange : r.InRange) :
    parse? (Session.printed .json r) = some r ∧
      ∀ decoded, parse? (Session.printed .json r) = some decoded →
        Session.printed .json decoded = Session.printed .json r ∧ decoded.text = r.text ∧
        decoded.classification.exitCode = r.classification.exitCode := by
  have line_feed : "\n".toList.all Json.isSpace = true := by decide
  have read : parse? (Session.printed .json r) = some r := by
    have value : Json.parse? (r.toJson.pretty ++ "\n") = some r.toJson :=
      inRange.fits_toJson.parse?_pretty (by decide) (List.all_eq_true.1 line_feed)
    rw [Session.printed, pretty, parse?, value, Option.bind_some, inRange.ofJson?_toJson]
  refine ⟨read, fun decoded found => ?_⟩
  rw [read] at found
  obtain rfl := Option.some.inj found
  exact ⟨rfl, rfl, rfl⟩

/-- The greatest count. -/
def greatest : Nat := 18446744073709551615

/-- A report with counts at their limits, the least exit code, and texts that have to be escaped. -/
def limits : Report where
  schemaVersion := "0.1.0"
  tool := ⟨"\"\\/", "\x00\x1f\x7f", none⟩
  input := ⟨"ü𝄞\u2028", ""⟩
  rules := ⟨"0.1.0", ["b", "a", "b"], greatest⟩
  findings := [⟨.warning, "a\tb", "c\nd", greatest, "e\rf", "", .ofList ["é", "z", ""]⟩]
  coverage := ⟨greatest, 0, ⟨0, 1, 2, 3, 4, greatest⟩, 5, 6, ⟨greatest, 7, 8⟩⟩
  classification := ⟨.advisory, some .warning, greatest, -2147483648⟩

/-- That report is read back. -/
theorem parse?_limits : parse? (Session.printed .json limits) = some limits := by
  have inRange : limits.InRange :=
    { commands := by decide
      findings := by decide
      coverage := ⟨by decide, by decide,
        ⟨by decide, by decide, by decide, by decide, by decide, by decide⟩, by decide, by decide,
        ⟨by decide, by decide, by decide⟩⟩
      classification := ⟨by decide, by decide⟩ }
  exact (parse?_printed inRange).1

end Report
end TraceAudit
