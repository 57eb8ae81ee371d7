import TraceAudit.Proofs.Program.Sessions
import TraceAudit.Proofs.Trace.Failures

/-!
# Runs on sources that fail

A failure of the source is fatal, at whatever byte it comes and whatever was found before: there is
no report, and a session tells the reason and ends with the exit code for it. Only the lines that
the failure did not cut off were looked at, and how many of them had given their items makes no
difference.
-/

namespace TraceAudit

open Session (loadRules runArguments)

variable {σ : Type}

/-- A source delivers some input, fails, and would deliver more. Asked any number of times, its
reader answers with the items of the lines that are ended, and then with nothing; finished after
that, it tells the failure. No report is made of it, and a session on it complains of the failure,
whatever the rules and wherever the source comes from. -/
theorem failure_is_told {source : List Delivery} {input : Bytes}
    (delivered : Delivers source input) (reason : String) (tail : List Delivery) :
    ∃ cut, Trace.EndedLines input cut ∧
      (∀ count,
        ((Reader.ofSource (source ++ .failure reason :: tail)).answers count).1 =
            (List.range count).map (fun i => (Trace.batch cut)[i]?) ∧
          ((Reader.ofSource (source ++ .failure reason :: tail)).answers count).2.finish =
            .error reason) ∧
      (∀ name rules tool,
        audit (source ++ .failure reason :: tail) name rules tool = .error (.notRead reason)) ∧
      ∀ {σ : Type} (host : Host (StateM σ)) {arguments options} {s between after : σ} {rules},
        Invocation.ofArguments arguments = .analyze options →
          (loadRules host options.rules).run s = (.ok rules, between) →
            ((TraceSource.ofArgument options.input).deliveries host).run between =
              (.ok (source ++ .failure reason :: tail), after) →
            (runArguments host arguments).run s =
              (⟨4, "", some ("error: " ++ ("failed reading trace input: " ++ reason))⟩, after) := by
  have isCut : Trace.EndedLines input ((Trace.lines input).filter Trace.isEnded) :=
    Trace.endedLines_iff.2 rfl
  have fails := Reader.failsAfter_ofSource delivered isCut reason tail
  have unread : ∀ name rules tool,
      audit (source ++ .failure reason :: tail) name rules tool = .error (.notRead reason) :=
    audit_of_fails (.inl (delivered.fails reason tail))
  refine ⟨_, isCut, ?_, unread, ?_⟩
  · intro count
    obtain ⟨answers, onward⟩ := fails.answers count
    exact ⟨answers, onward.finish⟩
  · intro σ host arguments options s between after rules accepted loaded opened
    have found := TraceSource.run_report_of_delivered opened rules (Session.tool options.commit)
    rw [unread] at found
    rw [Session.runArguments_of_accepted accepted, Session.analyze_of_bad_input loaded found]
    rfl

/-- A machine whose standard input fails within its second line, and would deliver that line after
all. -/
def failingMachine : Machine where
  files := ⟨[], []⟩
  standardInput := [.bytes (flushTrace ++ flushTrace.take 9), .interrupt] ++
    .failure "Input/output error (os error 5)" :: [.bytes (flushTrace.drop 9)]

/-- The first line wipes a store. It gives an item that blocks, and the failure is all that the
session tells. -/
theorem failingMachine_session :
    (((Reader.ofSource failingMachine.standardInput).answers 3).1.map
        fun item => item.map fun given =>
          given.toOption.map fun record =>
            (record.analyze .builtin).detections.map (·.rule.severity)) =
        [some (some [.blocker]), none, none] ∧
      (runArguments Machine.host ["analyze", "-"]).run failingMachine =
        (⟨4, "", some
          ("error: " ++ ("failed reading trace input: " ++ "Input/output error (os error 5)"))⟩,
          { failingMachine with standardInput := [] }) := by
  have chunks : Delivers [.bytes (flushTrace ++ flushTrace.take 9), .interrupt]
      (flushTrace ++ flushTrace.take 9) := by
    have cut := Delivers.chunk (flushTrace ++ flushTrace.take 9) (.interrupt .done)
    rwa [List.append_nil] at cut
  obtain ⟨cut, isCut, answers, _, sessions⟩ := failure_is_told chunks
    "Input/output error (os error 5)" [.bytes (flushTrace.drop 9)]
  constructor
  · have first := (answers 3).1
    rw [Trace.endedLines_iff.1 isCut] at first
    exact (congrArg (List.map _) first).trans (by decide +kernel)
  · have accepted : Invocation.ofArguments ["analyze", "-"] =
        .analyze ⟨"-", .text, none, none, none⟩ := by decide +kernel
    exact sessions Machine.host accepted rfl rfl

end TraceAudit
