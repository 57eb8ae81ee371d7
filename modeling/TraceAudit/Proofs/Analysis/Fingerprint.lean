import TraceAudit.Proofs.Analysis.Refusals
import TraceAudit.Proofs.Analysis.Verdict

/-!
# What a fingerprint covers

The fingerprint in a report is made when the reader is finished, and finishing asks the source once
more after the end at which the analysis stopped. The lines that the source has then to give are in
the fingerprint and in the count of lines, though nobody looked at them; the findings and the
coverage are those of the lines before. The fingerprint covers just what was analyzed exactly if
there are no such lines, as with every source that ends for good.
-/

namespace TraceAudit

open Delivery (Ends EndsForGood)

/-- A report sums up the lines that a source gives up to its end, which are seen, and has the
fingerprint of these and of the lines that the source gives to who asks once more, which are not. -/
structure Report.Covers (report : Report) (rules : RuleSet) (source : List Delivery)
    (seen unseen : List Bytes) : Prop where
  ends : ∃ rest last, Ends source seen rest ∧ Ends rest unseen last
  items : (Reader.ofSource source).items.1 = Trace.batch seen
  taken : (Reader.ofSource source).items.2.bytesTaken = seen.flatten
  summary : Tally.summary (.ofItems rules (Trace.batch seen)) = ⟨report.findings, report.coverage⟩
  counted : report.coverage.records + report.coverage.unparsed = (Trace.batch seen).length
  fingerprint : report.input.sha256 = Sha256.hexDigest (seen.flatten ++ unseen.flatten)
  finished : (Reader.ofSource source).items.2.finish =
    .ok ⟨report.input.sha256, (Trace.batch (seen ++ unseen)).length⟩

namespace Reader

/-- Finishing a reader adds the lines that it has left unread to those that it has taken. -/
theorem exists_unread_of_finish {r : Reader} {digest : InputDigest}
    (finished : r.finish = .ok digest) :
    ∃ unread rest, Ends r.source unread rest ∧
      digest = ⟨Sha256.hexDigest (r.bytesTaken ++ unread.flatten),
        r.nonBlank + (Trace.itemsFrom r.lines unread).length⟩ := by
  have sound := failure_of_finish finished
  rcases Delivery.ends_or_fails r.source with ⟨unread, rest, ends⟩ | ⟨reason, fails⟩
  · rw [finish_of_ends sound ends] at finished
    exact ⟨unread, rest, ends, (Except.ok.inj finished).symm⟩
  · rw [finish_of_fails sound fails] at finished
    cases finished

/-- The digest of a reader that has not failed when nothing is left. -/
theorem finish_of_drain {r : Reader} (sound : (r.drain []).2.failure = none) :
    r.finish = .ok ⟨Sha256.hexDigest (r.drain []).2.bytesTaken, (r.drain []).2.nonBlank⟩ := by
  unfold finish
  dsimp only
  rw [sound]
  rfl

end Reader

/-- The report on a source that comes to its end and, for who asks once more, to another. -/
theorem Report.Covers.of_ends {source rest last : List Delivery} {seen unseen : List Bytes}
    (ends : Ends source seen rest) (again : Ends rest unseen last) (name : String)
    (rules : RuleSet) (tool : Tool) :
    (Report.ofSummary tool ⟨name, Sha256.hexDigest (seen ++ unseen).flatten⟩ rules
      (Tally.ofItems rules (Trace.batch seen)).summary).Covers rules source seen unseen where
  ends := ⟨rest, last, ends, again⟩
  items := by rw [Reader.items_of_ends ends, Trace.itemsFrom_zero]
  taken := by
    rw [Reader.items_of_ends ends, Reader.bytesTaken_afterLines]
    rfl
  summary := rfl
  counted := by
    have counts := (Tally.counts_itemsFrom rules 0 seen).total
    rwa [Trace.itemsFrom_zero] at counts
  fingerprint := by
    rw [← List.flatten_append]
    rfl
  finished := by
    rw [Reader.items_of_ends ends, Reader.finish_afterLines again, Trace.itemsFrom_zero]
    rfl

/-- A report sums up the lines that were seen up to the end of its source. Its fingerprint and the
count of its lines are of these and of the lines that the source gives to who asks once more: they
are of the lines that were seen, and of no others, exactly if it gives none. A source that ends for
good gives none. Finishing any reader adds to the lines that it has taken those that its source
still gives, whether or not anybody looks at them. -/
theorem fingerprint_covers {source : List Delivery} {name : String} {rules : RuleSet} {tool : Tool}
    {report : Report} (done : audit source name rules tool = .ok report) :
    (∃ seen unseen, report.Covers rules source seen unseen ∧
      ((seen ++ unseen).flatten = seen.flatten ∧
        (Trace.batch (seen ++ unseen)).length =
          report.coverage.records + report.coverage.unparsed ↔ unseen = []) ∧
      (EndsForGood source → unseen = [])) ∧
    ∀ (r : Reader) (digest : InputDigest), r.finish = .ok digest →
      ∃ unread rest, Ends r.source unread rest ∧
        digest = ⟨Sha256.hexDigest (r.bytesTaken ++ unread.flatten),
          r.nonBlank + (Trace.itemsFrom r.lines unread).length⟩ := by
  refine ⟨?_, fun r digest => Reader.exists_unread_of_finish⟩
  cases audit_eq_ok_iff.1 done with
  | @report rest last seen unseen ends again _ =>
      have covers := Report.Covers.of_ends ends again name rules tool
      refine ⟨seen, unseen, covers, ⟨fun exactly => ?_, fun none_unseen => ?_⟩, fun for_good => ?_⟩
      · rw [← again.flatten_eq_nil_iff, ← List.append_right_eq_self, ← List.flatten_append]
        exact exactly.1
      · rw [covers.counted, none_unseen, List.append_nil]
        exact ⟨rfl, rfl⟩
      · exact again.eq_nil_of_isSilent (ends.isSilent for_good)

/-- A source that delivers one line, says twice that its input has ended, and is interrupted in
between. -/
def endedSource : List Delivery :=
  [.bytes (Text.encodeUtf8 (redisLine "GET a")), .pause, .interrupt, .pause]

/-- The fingerprint of that source is that of its line, and one line is counted. -/
theorem endedSource_covers :
    Delivery.EndsForGood endedSource ∧
    ∃ report, audit endedSource "inline" .builtin ⟨"tracegate", "0.1.0", none⟩ = .ok report ∧
      report.input.sha256 = Sha256.hexDigest (Text.encodeUtf8 (redisLine "GET a")) ∧
      (Reader.ofSource endedSource).items.2.finish = .ok ⟨report.input.sha256, 1⟩ := by
  have ends : Delivery.EndsForGood endedSource := fun chunk there => by simp at there
  refine ⟨ends, ?_⟩
  have counted : (audit endedSource "inline" .builtin ⟨"tracegate", "0.1.0", none⟩).map
      (fun report => report.coverage.records + report.coverage.unparsed) = .ok 1 := by
    decide +kernel
  have taken : (Reader.ofSource endedSource).items.2.bytesTaken =
      Text.encodeUtf8 (redisLine "GET a") := by decide +kernel
  obtain ⟨report, done, one⟩ := map_eq_ok_iff.1 counted
  obtain ⟨⟨seen, unseen, covers, _, all_seen⟩, _⟩ := fingerprint_covers done
  obtain rfl : unseen = [] := all_seen ends
  have fingerprint := covers.fingerprint
  have finished := covers.finished
  rw [← covers.taken, taken, List.flatten_nil, List.append_nil] at fingerprint
  rw [List.append_nil, ← covers.counted, one] at finished
  exact ⟨report, done, fingerprint, finished⟩

/-- A source that says that its input has ended, and then delivers a line that wipes a cache. -/
def growingSource : List Delivery :=
  [.bytes (Text.encodeUtf8 (redisLine "GET a")), .pause,
    .bytes (Text.encodeUtf8 (redisLine "FLUSHALL"))]

/-- The lines of that source. -/
def growingLines : Bytes :=
  Text.encodeUtf8 (redisLine "GET a" ++ redisLine "FLUSHALL")

/-- The report on that source counts one line and finds nothing, but its fingerprint is that of both
lines, and finishing the reader counts two. So does finishing a reader that has taken only the first
of the two lines when both are there at once. -/
theorem growingSource_covers_more :
    (∃ report, audit growingSource "inline" .builtin ⟨"tracegate", "0.1.0", none⟩ = .ok report ∧
      report.classification.exitCode = 0 ∧
      report.coverage.records + report.coverage.unparsed = 1 ∧
      (Reader.ofSource growingSource).items.2.bytesTaken = Text.encodeUtf8 (redisLine "GET a") ∧
      report.input.sha256 ≠ Sha256.hexDigest (Text.encodeUtf8 (redisLine "GET a")) ∧
      (Reader.ofSource growingSource).items.2.finish = .ok ⟨report.input.sha256, 2⟩) ∧
    ((Reader.ofSource [.bytes growingLines]).take 1).2.bytesTaken =
      Text.encodeUtf8 (redisLine "GET a") ∧
    ((Reader.ofSource [.bytes growingLines]).take 1).2.finish =
      .ok ⟨Sha256.hexDigest growingLines, 2⟩ := by
  refine ⟨?_, by decide +kernel, ?_⟩
  · have counted : (audit growingSource "inline" .builtin ⟨"tracegate", "0.1.0", none⟩).map
        (fun report => (report.classification.exitCode,
          report.coverage.records + report.coverage.unparsed)) = .ok (0, 1) := by
      decide +kernel
    have drained : ((Reader.ofSource growingSource).items.2.drain []).2.failure = none ∧
        ((Reader.ofSource growingSource).items.2.drain []).2.bytesTaken = growingLines ∧
        ((Reader.ofSource growingSource).items.2.drain []).2.nonBlank = 2 := by decide +kernel
    have finished := Reader.finish_of_drain drained.1
    rw [drained.2.1, drained.2.2] at finished
    obtain ⟨report, done, pair⟩ := map_eq_ok_iff.1 counted
    obtain ⟨code, one⟩ := Prod.mk.inj pair
    have fingerprint : report.input.sha256 = Sha256.hexDigest growingLines := by
      obtain ⟨digest, also_finished, report_eq⟩ := exists_digest_of_audit done
      rw [finished] at also_finished
      rw [report_eq, ← Except.ok.inj also_finished]
      rfl
    refine ⟨report, done, code, one, by decide +kernel, ?_, fingerprint ▸ finished⟩
    rw [fingerprint]
    decide +kernel
  · have drained : (((Reader.ofSource [.bytes growingLines]).take 1).2.drain []).2.failure = none ∧
        (((Reader.ofSource [.bytes growingLines]).take 1).2.drain []).2.bytesTaken =
          growingLines ∧
        (((Reader.ofSource [.bytes growingLines]).take 1).2.drain []).2.nonBlank = 2 := by
      decide +kernel
    have finished := Reader.finish_of_drain drained.1
    rwa [drained.2.1, drained.2.2] at finished

end TraceAudit
