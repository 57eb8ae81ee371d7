import Mathlib.Data.List.Basic
import TraceAudit.Proofs.Analysis.Refusals
import TraceAudit.Proofs.Program.Hosts

/-!
# What a session promises

Whoever calls the program to analyze a trace can rely on its exit code, on what it prints, and on
the files that it leaves. How a session ends is decided by what the host answers and by the lines of
the input: rules that are no good are complained of first, then an input that cannot be opened or
that is refused, then files that cannot be written, and in each of these cases nothing is printed.
Otherwise the whole report is printed, and the exit code is that of the report. The report does not
depend on how it is printed and on where it is written to, and its files say what is printed.
-/

namespace TraceAudit

open Session (analyze deliver loadRules printed runArguments tool)

variable {σ φ ι : Type}

/-- The report under another name for the input. -/
def Report.renamed (source : String) (r : Report) : Report :=
  { r with input := { r.input with source } }

/-- The files of a report say what is printed: one is the text, and the others are JSON with members
of the JSON that is printed. -/
structure Report.FilesAgree (r : Report) : Prop where
  files : r.artifacts = [
    ⟨"findings.json", r.findingsJson.pretty ++ "\n"⟩,
    ⟨"coverage.json", r.coverageJson.pretty ++ "\n"⟩,
    ⟨"report.txt", printed .text r⟩]
  json : printed .json r = r.toJson.pretty ++ "\n"
  findings : ∀ key ∈ ["schema_version", "findings", "classification"],
    ∃ value, r.findingsJson.member? key = some value ∧ r.toJson.member? key = some value
  coverage : ∀ key ∈ ["schema_version", "input", "rules", "coverage"],
    ∃ value, r.coverageJson.member? key = some value ∧ r.toJson.member? key = some value

namespace Session

/-- What the rules of a session come to: they are built in, or they are read from a file. -/
inductive Loads (host : Host (StateM σ)) :
    Option String → σ → Except RulesError RuleSet → σ → Prop where
  | builtin (s : σ) : Loads host none s (.ok .builtin) s
  | unreadable {path : String} {s after : σ} {e : FileError}
      (read : (host.readText path).run s = (.error e, after)) :
      Loads host (some path) s (.error (.read path e.message)) after
  | file {path document : String} {s after : σ}
      (read : (host.readText path).run s = (.ok document, after)) :
      Loads host (some path) s (RuleSet.ofToml document) after

/-- The analysis that was asked for finds rules and an input, and by the lines of that input there is
a report on it. -/
inductive Finds (host : Host (StateM σ)) (options : AnalyzeOptions) : σ → Report → σ → Prop where
  | report {s between read : σ} {rules : RuleSet} {source : List Delivery} {r : Report}
      (loads : Loads host options.rules s (.ok rules) between)
      (opened : ((TraceSource.ofArgument options.input).deliveries host).run between =
        (.ok source, read))
      (reported : Reported (TraceSource.ofArgument options.input).name rules (tool options.commit)
        source r) :
      Finds host options s r read

/-- How a session ends in which a trace is analyzed. -/
inductive Ending (host : Host (StateM σ)) (options : AnalyzeOptions) (s : σ) :
    Exit → σ → Prop where
  | badRules {after : σ} {e : RulesError} (loads : Loads host options.rules s (.error e) after) :
      Ending host options s ⟨4, "", some ("error: " ++ e.message)⟩ after
  | notOpened {between after : σ} {rules : RuleSet} {e : FileError}
      (loads : Loads host options.rules s (.ok rules) between)
      (unopened : ((TraceSource.ofArgument options.input).deliveries host).run between =
        (.error e, after)) :
      Ending host options s
        ⟨4, "", some ("error: " ++ ("cannot open trace input " ++
          (TraceSource.ofArgument options.input).name ++ ": " ++ e.message))⟩ after
  | refused {between after : σ} {rules : RuleSet} {source : List Delivery} {e : RunError}
      (loads : Loads host options.rules s (.ok rules) between)
      (opened : ((TraceSource.ofArgument options.input).deliveries host).run between =
        (.ok source, after))
      (refused : Refused source e) :
      Ending host options s ⟨4, "", some ("error: " ++ e.message)⟩ after
  | notStored {read after : σ} {r : Report} {directory : String} {e : FileError}
      (finds : Finds host options s r read) (asked : options.out = some directory)
      (stores : r.Stores host directory read (some e) after) :
      Ending host options s
        ⟨1, "", some ("Error: failed to write artifacts to " ++ directory ++ ": " ++ e.message)⟩
        after
  | printed {read : σ} {r : Report} (finds : Finds host options s r read)
      (unasked : options.out = none) :
      Ending host options s
        ⟨r.classification.exitCode, printed options.format r, none⟩ read
  | stored {read after : σ} {r : Report} {directory : String}
      (finds : Finds host options s r read) (asked : options.out = some directory)
      (stores : r.Stores host directory read none after) :
      Ending host options s
        ⟨r.classification.exitCode, printed options.format r, none⟩ after

end Session

open Session (Ending Finds Loads)

/-- What holds of all sessions that analyze a trace on a host, whatever the host does. -/
structure Host.MeetsContract (host : Host (StateM σ)) : Prop where
  /-- A session ends in one of the ways that are listed, and in no other. -/
  ending : ∀ {arguments options}, Invocation.ofArguments arguments = .analyze options →
    ∀ s exit after,
      (runArguments host arguments).run s = (exit, after) ↔ Ending host options s exit after
  /-- Command lines that differ in what is done with a report are about one report. -/
  one_report : ∀ {arguments others options format out s exit after other later},
    Invocation.ofArguments arguments = .analyze options →
      Invocation.ofArguments others = .analyze { options with format, out } →
        (runArguments host arguments).run s = (exit, after) → exit.complaint = none →
          (runArguments host others).run s = (other, later) → other.complaint = none →
            ∃ r : Report, exit.code = r.classification.exitCode ∧ other.code = exit.code ∧
              exit.output = printed options.format r ∧ other.output = printed format r
  /-- A file and the standard input that deliver the same bytes give the same report, but for the
  name of the input. -/
  one_input : ∀ {path s source opened waiting taken input},
    path ≠ "-" → (host.openFile path).run s = (.ok source, opened) → Delivers source input →
      host.standardInput.run s = (waiting, taken) → Delivers waiting input → ∀ rules commit,
        (((TraceSource.ofArgument "-").report host rules (tool commit)).run s).1 =
          (((TraceSource.ofArgument path).report host rules (tool commit)).run s).1.map
            (Report.renamed "<stdin>")

/-- What holds of the files of a host when a session has ended. -/
structure Host.LeavesFiles (host : Host (StateM σ)) (view : FileView σ φ ι) : Prop where
  /-- A session makes no file if its rules or its input are no good, or if it is not asked to. -/
  untouched : ∀ {arguments options s exit after},
    Invocation.ofArguments arguments = .analyze options →
      (runArguments host arguments).run s = (exit, after) →
        exit.code = 4 ∨ options.out = none → view.all after = view.all s
  /-- The files of a report that were written can be read if no two paths lead to one file. -/
  stored : ∀ {directory s after} {r : Report}, r.Stores host directory s none after →
    view.Separates after directory r.artifacts → r.StandsIn host after directory

/-! ## One session -/

namespace TraceSource

variable {host : Host (StateM σ)} {source : TraceSource}

/-- The report on a source that was opened. -/
theorem run_report_of_delivered {delivered : List Delivery} {s opened : σ}
    (given : (source.deliveries host).run s = (.ok delivered, opened)) (rules : RuleSet)
    (tool : Tool) :
    (source.report host rules tool).run s = (audit delivered source.name rules tool, opened) := by
  rw [report, run_bind_of_run given]
  rfl

theorem run_report_of_reported {delivered : List Delivery} {s opened : σ} {rules : RuleSet}
    {tool : Tool} {r : Report} (given : (source.deliveries host).run s = (.ok delivered, opened))
    (reported : Reported source.name rules tool delivered r) :
    (source.report host rules tool).run s = (.ok r, opened) := by
  rw [run_report_of_delivered given, audit_of_reported reported]

theorem run_report_of_refused {delivered : List Delivery} {s opened : σ} {e : RunError}
    (given : (source.deliveries host).run s = (.ok delivered, opened))
    (refused : Refused delivered e) (rules : RuleSet) (tool : Tool) :
    (source.report host rules tool).run s = (.error e, opened) := by
  rw [run_report_of_delivered given, audit_of_refused refused]

theorem run_report_of_unopened {e : FileError} {s after : σ}
    (unopened : (source.deliveries host).run s = (.error e, after)) (rules : RuleSet)
    (tool : Tool) :
    (source.report host rules tool).run s = (.error (.notOpened source.name e.message), after) := by
  rw [report, run_bind_of_run unopened]
  rfl

end TraceSource

namespace Session

variable {host : Host (StateM σ)} {arguments : List String} {options : AnalyzeOptions}
  {s between read after : σ} {r : Report} {directory : String}

theorem runArguments_of_accepted
    (accepted : Invocation.ofArguments arguments = .analyze options) :
    runArguments host arguments = analyze host options := by
  rw [runArguments, accepted]
  rfl

theorem Loads.run {file : Option String} {result : Except RulesError RuleSet}
    (loads : Loads host file s result after) :
    (loadRules host file).run s = (result, after) := by
  cases loads with
  | builtin => rfl
  | unreadable read =>
      rw [loadRules, RuleSet.ofPath, run_bind_of_run read]
      rfl
  | file read =>
      rw [loadRules, RuleSet.ofPath, run_bind_of_run read]
      rfl

/-- Rules are loaded or complained of. -/
theorem exists_loads (host : Host (StateM σ)) (file : Option String) (s : σ) :
    ∃ result after, Loads host file s result after := by
  cases file with
  | none => exact ⟨_, _, .builtin s⟩
  | some path =>
      cases read : (host.readText path).run s with
      | mk document after =>
          cases document with
          | error e => exact ⟨_, _, .unreadable read⟩
          | ok document => exact ⟨_, _, .file read⟩

theorem analyze_of_bad_input {rules : RuleSet} {e : RunError}
    (loaded : (loadRules host options.rules).run s = (.ok rules, between))
    (found : ((TraceSource.ofArgument options.input).report host rules (tool options.commit)).run
      between = (.error e, after)) :
    (analyze host options).run s = (fatal e.message, after) := by
  rw [analyze, run_bind_of_run loaded]
  dsimp only
  rw [run_bind_of_run found]
  rfl

/-- Once there is a report, it is delivered. -/
theorem Finds.run (finds : Finds host options s r read) :
    (analyze host options).run s = (deliver host options r).run read := by
  cases finds with
  | report loads opened reported =>
      rw [analyze, run_bind_of_run loads.run]
      dsimp only
      rw [run_bind_of_run (TraceSource.run_report_of_reported opened reported)]

/-- What is done with a report makes no difference to it. -/
theorem Finds.with_options {format : OutputFormat} {out : Option String}
    (finds : Finds host { options with format, out } s r read) : Finds host options s r read := by
  cases finds with
  | report loads opened reported => exact .report loads opened reported

/-- There is one report to come to. -/
theorem Finds.unique {other : σ} {found : Report} (finds : Finds host options s r read)
    (also_finds : Finds host options s found other) : found = r := by
  cases finds with
  | report loads opened reported =>
      cases also_finds with
      | report also_loads also_opened also_reported =>
          cases loads.run.symm.trans also_loads.run
          cases opened.symm.trans also_opened
          cases (audit_of_reported reported).symm.trans (audit_of_reported also_reported)
          rfl

theorem deliver_of_none (unasked : options.out = none) (s : σ) :
    (deliver host options r).run s =
      (⟨r.classification.exitCode, printed options.format r, none⟩, s) := by
  rw [deliver, unasked]
  rfl

theorem deliver_of_stores_some {e : FileError} (asked : options.out = some directory)
    (stores : r.Stores host directory s (some e) after) :
    (deliver host options r).run s = (unwritten directory e, after) := by
  rw [deliver, asked]
  dsimp only
  rw [run_bind_of_run stores.run_error]
  rfl

theorem deliver_of_stores_none (asked : options.out = some directory)
    (stores : r.Stores host directory s none after) :
    (deliver host options r).run s =
      (⟨r.classification.exitCode, printed options.format r, none⟩, after) := by
  obtain ⟨paths, written⟩ := stores.run_ok
  rw [deliver, asked]
  dsimp only
  rw [run_bind_of_run written]
  rfl

/-! ## Endings -/

/-- A session ends in every way that is open to it. -/
theorem Ending.run {exit : Exit} (ending : Ending host options s exit after) :
    (analyze host options).run s = (exit, after) := by
  cases ending with
  | badRules loads =>
      rw [analyze, run_bind_of_run loads.run]
      rfl
  | notOpened loads unopened =>
      exact analyze_of_bad_input loads.run
        (TraceSource.run_report_of_unopened unopened _ (tool options.commit))
  | refused loads opened refused =>
      exact analyze_of_bad_input loads.run
        (TraceSource.run_report_of_refused opened refused _ (tool options.commit))
  | notStored finds asked stores =>
      rw [finds.run]
      exact deliver_of_stores_some asked stores
  | printed finds unasked =>
      rw [finds.run]
      exact deliver_of_none unasked _
  | stored finds asked stores =>
      rw [finds.run]
      exact deliver_of_stores_none asked stores

/-- Some way to end is open to every session. -/
theorem exists_ending (host : Host (StateM σ)) (options : AnalyzeOptions) (s : σ) :
    ∃ exit after, Ending host options s exit after := by
  obtain ⟨result, between, loads⟩ := exists_loads host options.rules s
  cases result with
  | error e => exact ⟨_, _, .badRules loads⟩
  | ok rules =>
      cases opened : ((TraceSource.ofArgument options.input).deliveries host).run between with
      | mk result read =>
          cases result with
          | error e => exact ⟨_, _, .notOpened loads opened⟩
          | ok source =>
              rcases refused_or_reported source (TraceSource.ofArgument options.input).name rules
                (tool options.commit) with ⟨e, refused⟩ | ⟨r, reported⟩
              · exact ⟨_, _, .refused loads opened refused⟩
              · have finds : Finds host options s r read := .report loads opened reported
                cases asked : options.out with
                | none => exact ⟨_, _, .printed finds asked⟩
                | some directory =>
                    obtain ⟨refusal, after, stores⟩ := r.exists_stores host directory read
                    cases refusal with
                    | none => exact ⟨_, _, .stored finds asked stores⟩
                    | some e => exact ⟨_, _, .notStored finds asked stores⟩

theorem ending_iff {exit : Exit} :
    (analyze host options).run s = (exit, after) ↔ Ending host options s exit after := by
  refine ⟨fun run => ?_, Ending.run⟩
  obtain ⟨found, last, ending⟩ := exists_ending host options s
  cases ending.run.symm.trans run
  exact ending

/-- A session without a complaint comes to a report, and prints it. -/
theorem Ending.exists_finds {exit : Exit} (ending : Ending host options s exit after)
    (content : exit.complaint = none) :
    ∃ r read, Finds host options s r read ∧ exit.code = r.classification.exitCode ∧
      exit.output = Session.printed options.format r := by
  cases ending with
  | badRules _ => cases content
  | notOpened _ _ => cases content
  | refused _ _ _ => cases content
  | notStored _ _ _ => cases content
  | printed finds _ => exact ⟨_, _, finds, rfl, rfl⟩
  | stored finds _ _ => exact ⟨_, _, finds, rfl, rfl⟩

end Session

/-! ## Files -/

theorem Classification.exitCode_ne (findings : List Finding) :
    (ofFindings findings).exitCode ≠ 4 := by
  show (ofFindings findings).level.exitCode ≠ 4
  cases (ofFindings findings).level <;> decide

/-- No report has the exit code of a session that comes to none. -/
theorem Session.Finds.exitCode_ne {host : Host (StateM σ)} {options : AnalyzeOptions} {s read : σ}
    {r : Report} (finds : Finds host options s r read) : r.classification.exitCode ≠ 4 := by
  cases finds with
  | report _ _ reported =>
      cases reported with
      | report _ _ _ => exact Classification.exitCode_ne _

theorem Report.filesAgree (r : Report) : r.FilesAgree where
  files := rfl
  json := rfl
  findings := by
    simp only [List.forall_mem_cons]
    exact ⟨⟨_, rfl, rfl⟩, ⟨_, rfl, rfl⟩, ⟨_, rfl, rfl⟩, List.forall_mem_nil _⟩
  coverage := by
    simp only [List.forall_mem_cons]
    exact ⟨⟨_, rfl, rfl⟩, ⟨_, rfl, rfl⟩, ⟨_, rfl, rfl⟩, ⟨_, rfl, rfl⟩, List.forall_mem_nil _⟩

namespace Host.IsSound

variable {host : Host (StateM σ)} {view : FileView σ φ ι} {options : AnalyzeOptions} {s after : σ}

theorem all_loads (sound : host.IsSound view) {file : Option String}
    {result : Except RulesError RuleSet} (loads : Loads host file s result after) :
    view.all after = view.all s := by
  cases loads with
  | builtin => rfl
  | @unreadable path _ _ _ read =>
      have kept := sound.all_readText path s
      rwa [read] at kept
  | @file path _ _ _ read =>
      have kept := sound.all_readText path s
      rwa [read] at kept

theorem all_deliveries (sound : host.IsSound view) {source : TraceSource}
    {result : Except FileError (List Delivery)}
    (opened : (source.deliveries host).run s = (result, after)) :
    view.all after = view.all s := by
  have kept : view.all ((source.deliveries host).run s).2 = view.all s := by
    cases source with
    | file path => exact sound.all_openFile path s
    | standardInput => exact sound.all_standardInput s
  rwa [opened] at kept

theorem all_finds (sound : host.IsSound view) {r : Report} (finds : Finds host options s r after) :
    view.all after = view.all s := by
  cases finds with
  | report loads opened _ => exact (sound.all_deliveries opened).trans (sound.all_loads loads)

/-- Files are made only for a report that was asked for them. -/
theorem all_ending (sound : host.IsSound view) {exit : Exit}
    (ending : Ending host options s exit after) (idle : exit.code = 4 ∨ options.out = none) :
    view.all after = view.all s := by
  cases ending with
  | badRules loads => exact sound.all_loads loads
  | notOpened loads unopened => exact (sound.all_deliveries unopened).trans (sound.all_loads loads)
  | refused loads opened _ => exact (sound.all_deliveries opened).trans (sound.all_loads loads)
  | printed finds _ => exact sound.all_finds finds
  | notStored _ asked _ =>
      rcases idle with code | unasked
      · cases code
      · cases asked.symm.trans unasked
  | stored finds asked _ =>
      rcases idle with code | unasked
      · exact absurd code finds.exitCode_ne
      · cases asked.symm.trans unasked

end Host.IsSound

/-! ## Inputs -/

/-- The name of an input is no more than a name. -/
theorem audit_renamed {source waiting : List Delivery} {input : Bytes}
    (delivered : Delivers source input) (also_delivered : Delivers waiting input)
    (name other : String) (rules : RuleSet) (tool : Tool) :
    audit waiting other rules tool =
      (audit source name rules tool).map (Report.renamed other) := by
  rw [audit_delivered delivered, audit_delivered also_delivered]
  split <;> rfl

namespace TraceSource

variable {host : Host (StateM σ)}

/-- The report on a file that was opened. -/
theorem run_report_file {path : String} {s opened : σ} {source : List Delivery}
    (named : path ≠ "-") (file : (host.openFile path).run s = (.ok source, opened))
    (rules : RuleSet) (tool : Tool) :
    ((ofArgument path).report host rules tool).run s =
      (audit source path rules tool, opened) := by
  have whole : ((TraceSource.file path).deliveries host).run s = (.ok source, opened) := file
  rw [ofArgument, if_neg named]
  exact run_report_of_delivered whole rules tool

/-- The report on what the standard input gives. -/
theorem run_report_standardInput {s taken : σ} {waiting : List Delivery}
    (stdin : host.standardInput.run s = (waiting, taken)) (rules : RuleSet) (tool : Tool) :
    ((ofArgument "-").report host rules tool).run s =
      (audit waiting "<stdin>" rules tool, taken) := by
  have whole : (TraceSource.standardInput.deliveries host).run s = (.ok waiting, taken) := by
    rw [deliveries, run_bind_of_run stdin]
    rfl
  rw [ofArgument, if_pos rfl]
  exact run_report_of_delivered whole rules tool

end TraceSource

/-! ## All sessions -/

theorem Host.meetsContract (host : Host (StateM σ)) : host.MeetsContract where
  ending accepted s exit after := by
    rw [Session.runArguments_of_accepted accepted]
    exact Session.ending_iff
  one_report accepted also_accepted ended content also_ended also_content := by
    rw [Session.runArguments_of_accepted accepted] at ended
    rw [Session.runArguments_of_accepted also_accepted] at also_ended
    obtain ⟨r, read, finds, code, output⟩ := (Session.ending_iff.1 ended).exists_finds content
    obtain ⟨found, _, also_finds, also_code, also_output⟩ :=
      (Session.ending_iff.1 also_ended).exists_finds also_content
    have same : found = r := finds.unique also_finds.with_options
    rw [same] at also_code also_output
    exact ⟨r, code, also_code.trans code.symm, output, also_output⟩
  one_input named file delivered stdin also_delivered rules commit := by
    rw [TraceSource.run_report_file named file, TraceSource.run_report_standardInput stdin]
    exact audit_renamed delivered also_delivered _ _ rules (tool commit)

theorem Host.IsSound.leavesFiles {host : Host (StateM σ)} {view : FileView σ φ ι}
    (sound : host.IsSound view) : host.LeavesFiles view where
  untouched accepted ended idle := by
    rw [Session.runArguments_of_accepted accepted] at ended
    exact sound.all_ending (Session.ending_iff.1 ended) idle
  stored stores separates := stores.standsIn sound separates

/-- Every host meets the contract, and the files of every report say what is printed. A sound host is
left with no files but those of a report that was asked for, and these can be read as they were
written, unless two of their paths lead to one file. On a machine no two do. -/
theorem session_contract :
    (∀ {σ : Type} (host : Host (StateM σ)), host.MeetsContract) ∧
    (∀ r : Report, r.FilesAgree) ∧
    (∀ {σ φ ι : Type} {host : Host (StateM σ)} {view : FileView σ φ ι},
      host.IsSound view → host.LeavesFiles view) ∧
    Machine.host.LeavesFiles Machine.view ∧
    ∀ {directory : String} {m after : Machine} {r : Report},
      r.Stores Machine.host directory m none after → r.StandsIn Machine.host after directory :=
  ⟨Host.meetsContract, Report.filesAgree, Host.IsSound.leavesFiles,
    Machine.isSound_host.leavesFiles,
    fun stores => stores.standsIn Machine.isSound_host stores.separates⟩

/-- A trace of one command to a store. -/
def flushTrace : Bytes :=
  Text.encodeUtf8
    "\x7b\"role\":\"redis\",\"meta\":\x7b\"redis\":\x7b\"command\":\"FLUSHALL\"\x7d\x7d\x7d\n"

/-- A machine with that trace in a file and, in two chunks, at the standard input. -/
def flushMachine : Machine where
  files := ⟨[(["t"], .file flushTrace)], []⟩
  standardInput := [.bytes (flushTrace.take 9), .interrupt, .bytes (flushTrace.drop 9)]

/-- The report on that file. -/
def flushReport : Report :=
  .ofSummary (tool none) ⟨"t", Sha256.hexDigest flushTrace⟩ .builtin
    (Trace.summary .builtin flushTrace)

theorem reported_flushTrace :
    Reported "t" .builtin (tool none) [.bytes flushTrace] flushReport :=
  audit_eq_ok_iff.1
    (audit_of_parsed (delivers_whole flushTrace) "t" .builtin (tool none) (by decide +kernel))

theorem run_openFile_flushMachine :
    (Machine.host.openFile "t").run flushMachine = (.ok [.bytes flushTrace], flushMachine) := by
  have opens : flushMachine.files.openFile "t" = .ok [.bytes flushTrace] := by decide +kernel
  exact congrArg (·, flushMachine) opens

/-- What is asked for when that file is analyzed and the files of the report go into a directory. -/
def flushOptions : AnalyzeOptions := ⟨"t", .text, some "o", none, none⟩

theorem accepted_flushOptions :
    Invocation.ofArguments ["analyze", "t", "--out", "o"] = .analyze flushOptions := by
  decide +kernel

theorem finds_flushMachine : Finds Machine.host flushOptions flushMachine flushReport flushMachine :=
  .report (.builtin flushMachine) run_openFile_flushMachine reported_flushTrace

theorem exitCode_flushReport : flushReport.classification.exitCode = 2 := by
  decide +kernel

/-- Its files are written into a directory that was not there, the standard input gives it too, and
where there are neither rules nor a trace the rules are complained of. -/
theorem flushMachine_sessions :
    (∃ after, (runArguments Machine.host ["analyze", "t", "--out", "o"]).run flushMachine =
        (⟨2, printed .text flushReport, none⟩, after) ∧
        flushReport.StandsIn Machine.host after "o") ∧
      (((TraceSource.ofArgument "-").report Machine.host .builtin (tool none)).run
        flushMachine).1 = .ok (flushReport.renamed "<stdin>") ∧
      ∃ after, (runArguments Machine.host ["analyze", "n", "--rules", "r"]).run flushMachine =
        (⟨4, "", some ("error: " ++ (RulesError.read "r" FileError.notFound.message).message)⟩,
          after) ∧ after.files = flushMachine.files := by
  obtain ⟨contract, _, of_sound, _, stands⟩ := session_contract
  refine ⟨?_, ?_, ?_⟩
  · have done : ((flushReport.writeTo Machine.host "o").run flushMachine).1 =
        .ok ["o/findings.json", "o/coverage.json", "o/report.txt"] := by decide +kernel
    have stores := Report.stores_of_run_eq_ok done
    have ended := ((contract Machine.host).ending accepted_flushOptions _ _ _).2
      (.stored finds_flushMachine rfl stores)
    rw [exitCode_flushReport] at ended
    exact ⟨_, ended, stands stores⟩
  · have chunks : Delivers flushMachine.standardInput flushTrace := by
      have cut :=
        Delivers.chunk (flushTrace.take 9) (.interrupt (delivers_whole (flushTrace.drop 9)))
      rwa [List.take_append_drop] at cut
    have same := (contract Machine.host).one_input (by decide) run_openFile_flushMachine
      (delivers_whole flushTrace) rfl chunks .builtin none
    have found : (((TraceSource.ofArgument "t").report Machine.host .builtin (tool none)).run
        flushMachine).1 = .ok flushReport := by
      rw [TraceSource.run_report_file (by decide) run_openFile_flushMachine,
        audit_of_reported reported_flushTrace]
    rw [same, found]
    rfl
  · have accepted : Invocation.ofArguments ["analyze", "n", "--rules", "r"] =
        .analyze ⟨"n", .text, none, some "r", none⟩ := by decide +kernel
    have missing : (Machine.host.readText "r").run flushMachine =
        (.error .notFound, flushMachine) := by
      have not_read : flushMachine.files.readText "r" = .error .notFound := by decide +kernel
      exact congrArg (·, flushMachine) not_read
    have ended := ((contract Machine.host).ending accepted _ _ _).2
      (.badRules (.unreadable missing))
    exact ⟨_, ended, (of_sound Machine.isSound_host).untouched accepted ended (.inl rfl)⟩

/-- A trace of blank lines. -/
def blankTrace : Bytes := Text.encodeUtf8 "\n\n"

/-- A machine with that trace in a file. -/
def blankMachine : Machine where
  files := ⟨[(["b"], .file blankTrace)], []⟩
  standardInput := []

/-- The report on that file counts nothing. -/
def blankReport : Report :=
  .ofSummary (tool none) ⟨"b", Sha256.hexDigest blankTrace⟩ .builtin
    (Tally.ofItems .builtin []).summary

theorem batch_blankTrace : Trace.batch (Trace.lines blankTrace) = [] := by
  decide +kernel

theorem reported_blankTrace :
    Reported "b" .builtin (tool none) [.bytes blankTrace] blankReport := by
  have blank : Trace.batch (Trace.lines blankTrace ++ []) = [] := by
    rw [List.append_nil, batch_blankTrace]
  have reported : Reported "b" .builtin (tool none) [.bytes blankTrace] _ :=
    .report (delivers_whole blankTrace).ends (.here rfl) (.inr blank)
  rwa [batch_blankTrace, List.append_nil, Trace.flatten_lines] at reported

/-- A machine on which one file of a report is a link to another. -/
def linkedHost : Host (StateM Machine) :=
  Machine.host.through fun path => if path = "o/findings.json" then "o/report.txt" else path

/-- On that machine the text of a report is what is read in place of its findings. -/
theorem reads_of_stores_linkedHost {r : Report} {m after : Machine}
    (stores : r.Stores linkedHost "o" m none after) :
    linkedHost.Reads after "o/findings.json" r.text := by
  have sound : linkedHost.IsSound _ := Machine.isSound_host.through _
  cases stores with
  | made _ writes =>
      -- The text is written last, by one path, and read by the other.
      cases writes with
      | onward _ writes =>
          cases writes with
          | onward _ writes =>
              cases writes with
              | onward written writes =>
                  cases writes
                  obtain ⟨place, here⟩ := sound.stands_written written
                  exact sound.reads_written written here trivial

/-- A trace of blank lines holds no record, and is reported all the same. On a sound host with a link
a session ends well, and the file for the findings holds the text that is printed. -/
theorem blank_and_linked_sessions :
    (∀ record, .ok record ∉ Trace.batch (Trace.lines blankTrace)) ∧
    (runArguments Machine.host ["analyze", "b"]).run blankMachine =
      (⟨0, printed .text blankReport, none⟩, blankMachine) ∧
    (∃ view : FileView Machine FileSystem Place, linkedHost.IsSound view) ∧
    ∃ after, (runArguments linkedHost ["analyze", "t", "--out", "o"]).run flushMachine =
        (⟨2, printed .text flushReport, none⟩, after) ∧
      linkedHost.Reads after "o/findings.json" flushReport.text ∧
      ¬ linkedHost.Reads after "o/findings.json" (flushReport.findingsJson.pretty ++ "\n") := by
  refine ⟨?_, ?_, ⟨_, Machine.isSound_host.through _⟩, ?_⟩
  · rw [batch_blankTrace]
    exact fun _ => List.not_mem_nil
  · have accepted : Invocation.ofArguments ["analyze", "b"] =
        .analyze ⟨"b", .text, none, none, none⟩ := by decide +kernel
    have opens : blankMachine.files.openFile "b" = .ok [.bytes blankTrace] := by decide +kernel
    have opened : (Machine.host.openFile "b").run blankMachine =
        (.ok [.bytes blankTrace], blankMachine) := congrArg (·, blankMachine) opens
    have finds : Finds Machine.host ⟨"b", .text, none, none, none⟩ blankMachine blankReport
        blankMachine := .report (.builtin blankMachine) opened reported_blankTrace
    have code : blankReport.classification.exitCode = 0 := by decide +kernel
    have ended := (Session.Ending.printed finds rfl).run
    rw [code] at ended
    rw [Session.runArguments_of_accepted accepted]
    exact ended
  · have opened : (linkedHost.openFile "t").run flushMachine =
        (.ok [.bytes flushTrace], flushMachine) := run_openFile_flushMachine
    have finds : Finds linkedHost flushOptions flushMachine flushReport flushMachine :=
      .report (.builtin flushMachine) opened reported_flushTrace
    have done : ((flushReport.writeTo linkedHost "o").run flushMachine).1 =
        .ok ["o/findings.json", "o/coverage.json", "o/report.txt"] := by decide +kernel
    have stores := Report.stores_of_run_eq_ok done
    have ended := (Session.Ending.stored finds rfl stores).run
    have read := reads_of_stores_linkedHost stores
    have other : flushReport.text ≠ flushReport.findingsJson.pretty ++ "\n" := by decide +kernel
    rw [exitCode_flushReport] at ended
    rw [Session.runArguments_of_accepted accepted_flushOptions]
    exact ⟨_, ended, read, fun also_read => other (Except.ok.inj (read.symm.trans also_read))⟩

end TraceAudit
