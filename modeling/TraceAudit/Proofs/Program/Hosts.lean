import TraceAudit.Program.Session
import TraceAudit.Proofs.Program.Files

/-!
# Sound hosts

What a host is asked for when the files of a report are written, and what can be said about the files
of a host whose reading makes none and whose ordinary files keep what is written into them: once all
files of a report were written, each of them is there, unless the paths of two of them lead to one
file. A machine is such a host, and so is a machine on which some paths are links to others.
-/

namespace TraceAudit

open FileSystem (IsFileName)

variable {σ φ ι α β : Type}

/-- A step that is done is followed by the next one, where it ended. -/
theorem run_bind_of_run {first : StateM σ α} {second : α → StateM σ β} {s next : σ} {found : α}
    (done : first.run s = (found, next)) : (first >>= second).run s = (second found).run next := by
  rw [StateT.run_bind, done]
  rfl

/-- A run of two steps is a run of the first and then of the second. -/
theorem exists_run_of_bind {first : StateM σ α} {second : α → StateM σ β} {s after : σ} {result : β}
    (done : (first >>= second).run s = (result, after)) :
    ∃ found next, first.run s = (found, next) ∧ (second found).run next = (result, after) :=
  ⟨(first.run s).1, (first.run s).2, rfl, done⟩

/-! ## Files as a host has them -/

/-- The files of a host: all that stands there, the file that a path leads to, through whatever
links, and which files can be read and keep what is written into them, as devices and pipes do not. -/
structure FileView (σ φ ι : Type) where
  all : σ → φ
  fileAt? : σ → String → Option ι
  Keeps : ι → Prop

namespace Host

/-- The file at a path can be read and holds a text. -/
def Reads (host : Host (StateM σ)) (s : σ) (path text : String) : Prop :=
  ((host.readText path).run s).1 = .ok text

/-- Where reading makes and changes no files, and where writing into a file that keeps what is
written changes this file and no other, nor the file that a path leads to. How a host may fail, what
stands at a path before it is written and which paths lead to one file is left open. -/
structure IsSound (host : Host (StateM σ)) (view : FileView σ φ ι) : Prop where
  all_readText : ∀ path s, view.all ((host.readText path).run s).2 = view.all s
  all_openFile : ∀ path s, view.all ((host.openFile path).run s).2 = view.all s
  all_standardInput : ∀ s, view.all (host.standardInput.run s).2 = view.all s
  stands_written : ∀ {path text s after}, (host.writeText path text).run s = (.ok (), after) →
    ∃ file, view.fileAt? after path = some file
  reads_written : ∀ {path text s after file},
    (host.writeText path text).run s = (.ok (), after) →
      view.fileAt? after path = some file → view.Keeps file → host.Reads after path text
  stands_beside : ∀ {path text s after file other beside},
    (host.writeText path text).run s = (.ok (), after) →
      view.fileAt? after path = some file → view.Keeps file →
        view.fileAt? s other = some beside → view.fileAt? after other = some beside
  reads_beside : ∀ {path text s after file other beside kept},
    (host.writeText path text).run s = (.ok (), after) →
      view.fileAt? after path = some file → view.Keeps file →
        view.fileAt? after other = some beside → beside ≠ file →
          host.Reads s other kept → host.Reads after other kept

/-! ## Links -/

/-- A host on which paths are followed to other paths first. -/
def through {m : Type → Type} (follow : String → String) (host : Host m) : Host m where
  readText path := host.readText (follow path)
  openFile path := host.openFile (follow path)
  standardInput := host.standardInput
  makeDirectory path := host.makeDirectory (follow path)
  writeText path text := host.writeText (follow path) text

end Host

/-- The files of a host on which paths are followed to other paths first. -/
def FileView.through (follow : String → String) (view : FileView σ φ ι) : FileView σ φ ι :=
  { view with fileAt? := fun s path => view.fileAt? s (follow path) }

/-- Links make no host unsound. -/
theorem Host.IsSound.through {host : Host (StateM σ)} {view : FileView σ φ ι}
    (sound : host.IsSound view) (follow : String → String) :
    (host.through follow).IsSound (view.through follow) where
  all_readText path s := sound.all_readText (follow path) s
  all_openFile path s := sound.all_openFile (follow path) s
  all_standardInput s := sound.all_standardInput s
  stands_written written := sound.stands_written written
  reads_written written here keeps := sound.reads_written written here keeps
  stands_beside written here keeps there := sound.stands_beside written here keeps there
  reads_beside written here keeps there ne read :=
    sound.reads_beside written here keeps there ne read

/-! ## Machines -/

namespace FileSystem

theorem readText_eq_ok_iff {fs : FileSystem} {path text : String} :
    fs.readText path = .ok text ↔
      ∃ content, fs.read path = .ok content ∧ Text.decodeUtf8? content = some text := by
  refine bind_eq_ok_iff.trans (exists_congr fun content => and_congr_right fun _ => ?_)
  cases Text.decodeUtf8? content <;>
    simp [throw, throwThe, MonadExceptOf.throw, pure, Except.pure]

end FileSystem

namespace Machine

/-- The files of a machine are told apart by their places, and all of them keep what is written. -/
def view : FileView Machine FileSystem Place where
  all := Machine.files
  fileAt? m path := m.files.fileAt? path
  Keeps _ := True

/-- Writing a text on a machine is writing its bytes into the file system. -/
theorem write_of_writeText {path text : String} {m after : Machine}
    (written : (host.writeText path text).run m = (.ok (), after)) :
    m.files.write path (Text.encodeUtf8 text) = .ok after.files := by
  obtain ⟨found, next, got, onward⟩ := exists_run_of_bind written
  cases got
  cases wrote : m.files.write path (Text.encodeUtf8 text) with
  | error e =>
      rw [wrote] at onward
      cases onward
  | ok files =>
      rw [wrote] at onward
      cases onward
      rfl

theorem isSound_host : host.IsSound view where
  all_readText _ _ := rfl
  all_openFile _ _ := rfl
  all_standardInput _ := rfl
  stands_written written := FileSystem.exists_fileAt?_of_write (write_of_writeText written)
  reads_written written _ _ := by
    have read := FileSystem.read_of_write (write_of_writeText written)
    exact FileSystem.readText_eq_ok_iff.2 ⟨_, read, Text.decodeUtf8?_encodeUtf8 _⟩
  stands_beside written _ _ there :=
    FileSystem.fileAt?_of_write (write_of_writeText written) there
  reads_beside written here _ there ne read := by
    obtain ⟨content, stands, decoded⟩ := FileSystem.readText_eq_ok_iff.1 read
    have kept := FileSystem.read_of_write_beside (write_of_writeText written) here there ne stands
    exact FileSystem.readText_eq_ok_iff.2 ⟨content, kept, decoded⟩

end Machine

/-! ## Writing files -/

/-- Files are written into a directory one by one, all of them or up to the first that the host
refuses to write. -/
inductive Writes (host : Host (StateM σ)) (directory : String) :
    List Artifact → σ → Option FileError → σ → Prop where
  | done (s : σ) : Writes host directory [] s none s
  | refused {a : Artifact} {rest : List Artifact} {s after : σ} {e : FileError}
      (refusal : (host.writeText (pathIn directory a.name) a.content).run s = (.error e, after)) :
      Writes host directory (a :: rest) s (some e) after
  | onward {a : Artifact} {rest : List Artifact} {s next after : σ} {refusal : Option FileError}
      (written : (host.writeText (pathIn directory a.name) a.content).run s = (.ok (), next))
      (others : Writes host directory rest next refusal after) :
      Writes host directory (a :: rest) s refusal after

/-- The files of a report are written into a directory that the host has made, or that was there,
unless the host refuses that. -/
inductive Report.Stores (host : Host (StateM σ)) (directory : String) (r : Report) :
    σ → Option FileError → σ → Prop where
  | refused {s after : σ} {e : FileError}
      (refusal : (host.makeDirectory directory).run s = (.error e, after)) :
      Stores host directory r s (some e) after
  | made {s next after : σ} {refusal : Option FileError}
      (made : (host.makeDirectory directory).run s = (.ok (), next))
      (writes : Writes host directory r.artifacts next refusal after) :
      Stores host directory r s refusal after

section

variable {host : Host (StateM σ)} {directory : String} {artifacts : List Artifact} {r : Report}
  {s after : σ} {e : FileError}

/-- Writing comes to an end. -/
theorem exists_writes (host : Host (StateM σ)) (directory : String) (artifacts : List Artifact)
    (s : σ) : ∃ refusal after, Writes host directory artifacts s refusal after := by
  induction artifacts generalizing s with
  | nil => exact ⟨none, s, .done s⟩
  | cons a rest ih =>
      cases written : (host.writeText (pathIn directory a.name) a.content).run s with
      | mk result next =>
          cases result with
          | error e => exact ⟨some e, next, .refused written⟩
          | ok _ =>
              obtain ⟨refusal, after, others⟩ := ih next
              exact ⟨refusal, after, .onward written others⟩

theorem Report.exists_stores (host : Host (StateM σ)) (directory : String) (r : Report) (s : σ) :
    ∃ refusal after, r.Stores host directory s refusal after := by
  cases made : (host.makeDirectory directory).run s with
  | mk result next =>
      cases result with
      | error e => exact ⟨some e, next, .refused made⟩
      | ok _ =>
          obtain ⟨refusal, after, writes⟩ := exists_writes host directory r.artifacts next
          exact ⟨refusal, after, .made made writes⟩

theorem Writes.run_error (writes : Writes host directory artifacts s (some e) after) :
    (writeArtifacts host directory artifacts).run s = (.error e, after) := by
  induction artifacts generalizing s with
  | nil => cases writes
  | cons a rest ih =>
      cases writes with
      | refused refusal =>
          rw [writeArtifacts, run_bind_of_run refusal]
          rfl
      | onward written others =>
          rw [writeArtifacts, run_bind_of_run written]
          dsimp only
          rw [run_bind_of_run (ih others)]
          rfl

theorem Writes.run_ok (writes : Writes host directory artifacts s none after) :
    ∃ paths, (writeArtifacts host directory artifacts).run s = (.ok paths, after) := by
  induction artifacts generalizing s with
  | nil =>
      cases writes
      exact ⟨[], rfl⟩
  | cons a rest ih =>
      cases writes with
      | onward written others =>
          obtain ⟨paths, run⟩ := ih others
          refine ⟨pathIn directory a.name :: paths, ?_⟩
          rw [writeArtifacts, run_bind_of_run written]
          dsimp only
          rw [run_bind_of_run run]
          rfl

theorem Report.Stores.run_error (stores : r.Stores host directory s (some e) after) :
    (r.writeTo host directory).run s = (.error e, after) := by
  cases stores with
  | refused refusal =>
      rw [writeTo, run_bind_of_run refusal]
      rfl
  | made made writes =>
      rw [writeTo, run_bind_of_run made]
      exact writes.run_error

theorem Report.Stores.run_ok (stores : r.Stores host directory s none after) :
    ∃ paths, (r.writeTo host directory).run s = (.ok paths, after) := by
  cases stores with
  | made made writes =>
      obtain ⟨paths, run⟩ := writes.run_ok
      refine ⟨paths, ?_⟩
      rw [writeTo, run_bind_of_run made]
      exact run

/-- Files of which the paths are given have been written. -/
theorem Report.stores_of_run_eq_ok {paths : List String}
    (done : ((r.writeTo host directory).run s).1 = .ok paths) :
    r.Stores host directory s none ((r.writeTo host directory).run s).2 := by
  obtain ⟨refusal, after, stores⟩ := r.exists_stores host directory s
  cases refusal with
  | none =>
      obtain ⟨_, run⟩ := stores.run_ok
      rwa [run]
  | some e =>
      rw [stores.run_error] at done
      cases done

end

/-! ## Files that were written -/

/-- Whatever files the paths of some artifacts in a directory lead to keep what is written. -/
def FileView.KeepsAll (view : FileView σ φ ι) (s : σ) (directory : String)
    (artifacts : List Artifact) : Prop :=
  ∀ a ∈ artifacts, ∀ file, view.fileAt? s (pathIn directory a.name) = some file → view.Keeps file

/-- The paths of some artifacts in a directory lead to files that keep what is written, and each to
another one. -/
structure FileView.Separates (view : FileView σ φ ι) (s : σ) (directory : String)
    (artifacts : List Artifact) : Prop where
  keeps : view.KeepsAll s directory artifacts
  distinct : artifacts.Pairwise fun a b =>
    view.fileAt? s (pathIn directory a.name) ≠ view.fileAt? s (pathIn directory b.name)

namespace Host.IsSound

variable {host : Host (StateM σ)} {view : FileView σ φ ι} {directory : String}
  {artifacts : List Artifact} {s after : σ}

/-- While files that keep what is written are written, no path comes to lead elsewhere. -/
theorem stands_of_writes (sound : host.IsSound view)
    (writes : Writes host directory artifacts s none after)
    (keeps : view.KeepsAll after directory artifacts) {other : String} {beside : ι}
    (there : view.fileAt? s other = some beside) : view.fileAt? after other = some beside := by
  induction artifacts generalizing s other beside with
  | nil =>
      cases writes
      exact there
  | cons a rest ih =>
      obtain ⟨here_keeps, keeps⟩ := List.forall_mem_cons.1 keeps
      cases writes with
      | onward written others =>
          obtain ⟨file, here⟩ := sound.stands_written written
          have last := ih others keeps here
          exact ih others keeps (sound.stands_beside written here (here_keeps file last) there)

/-- What a file holds is kept when other files are written. -/
theorem reads_of_writes_beside (sound : host.IsSound view)
    (writes : Writes host directory artifacts s none after)
    (keeps : view.KeepsAll after directory artifacts) {other kept : String} {beside : ι}
    (there : view.fileAt? s other = some beside)
    (apart : ∀ a ∈ artifacts, view.fileAt? after (pathIn directory a.name) ≠ some beside)
    (read : host.Reads s other kept) : host.Reads after other kept := by
  induction artifacts generalizing s with
  | nil =>
      cases writes
      exact read
  | cons a rest ih =>
      obtain ⟨here_keeps, keeps⟩ := List.forall_mem_cons.1 keeps
      obtain ⟨here_apart, apart⟩ := List.forall_mem_cons.1 apart
      cases writes with
      | onward written others =>
          obtain ⟨file, here⟩ := sound.stands_written written
          have last := sound.stands_of_writes others keeps here
          have still_there := sound.stands_beside written here (here_keeps file last) there
          have ne : beside ≠ file := by
            rintro rfl
            exact here_apart last
          exact ih others keeps still_there apart
            (sound.reads_beside written here (here_keeps file last) still_there ne read)

/-- The paths of files that were written lead to files. -/
theorem exists_fileAt?_of_writes (sound : host.IsSound view)
    (writes : Writes host directory artifacts s none after)
    (keeps : view.KeepsAll after directory artifacts) :
    ∀ a ∈ artifacts, ∃ file, view.fileAt? after (pathIn directory a.name) = some file := by
  induction artifacts generalizing s with
  | nil => exact fun _ impossible => absurd impossible List.not_mem_nil
  | cons a rest ih =>
      cases writes with
      | onward written others =>
          have keeps := (List.forall_mem_cons.1 keeps).2
          obtain ⟨file, here⟩ := sound.stands_written written
          exact List.forall_mem_cons.2
            ⟨⟨file, sound.stands_of_writes others keeps here⟩, ih others keeps⟩

/-- Files that were written are there if their paths lead to different files. -/
theorem reads_of_writes (sound : host.IsSound view)
    (writes : Writes host directory artifacts s none after)
    (separates : view.Separates after directory artifacts) :
    ∀ a ∈ artifacts, host.Reads after (pathIn directory a.name) a.content := by
  obtain ⟨keeps, distinct⟩ := separates
  induction artifacts generalizing s with
  | nil => exact fun _ impossible => absurd impossible List.not_mem_nil
  | cons a rest ih =>
      obtain ⟨here_keeps, keeps⟩ := List.forall_mem_cons.1 keeps
      obtain ⟨here_distinct, distinct⟩ := List.pairwise_cons.1 distinct
      cases writes with
      | onward written others =>
          obtain ⟨file, here⟩ := sound.stands_written written
          have last := sound.stands_of_writes others keeps here
          have apart : ∀ b ∈ rest, view.fileAt? after (pathIn directory b.name) ≠ some file :=
            fun b listed same => here_distinct b listed (last.trans same.symm)
          refine List.forall_mem_cons.2 ⟨?_, ih others keeps distinct⟩
          exact sound.reads_of_writes_beside others keeps here apart
            (sound.reads_written written here (here_keeps file last))

end Host.IsSound

/-! ## Files of a report -/

namespace Report

theorem isFileName_of_mem_artifacts (r : Report) : ∀ a ∈ r.artifacts, IsFileName a.name := by
  have each : ∀ name ∈ r.artifacts.map Artifact.name, IsFileName name := by
    show ∀ name ∈ ["findings.json", "coverage.json", "report.txt"], IsFileName name
    decide
  exact fun a listed => each a.name (List.mem_map_of_mem listed)

/-- The files of a report have different names. -/
theorem distinct_artifacts (r : Report) : r.artifacts.Pairwise (·.name ≠ ·.name) := by
  have distinct : (r.artifacts.map Artifact.name).Nodup := by
    show ["findings.json", "coverage.json", "report.txt"].Nodup
    decide
  exact List.pairwise_map.1 distinct

/-- The files of a report are in a directory: each can be read, and holds its content. -/
def StandsIn (host : Host (StateM σ)) (s : σ) (directory : String) (r : Report) : Prop :=
  ∀ a ∈ r.artifacts, host.Reads s (pathIn directory a.name) a.content

variable {r : Report} {directory : String}

/-- The files of a report that were written are there if their paths lead to different files. -/
theorem Stores.standsIn {host : Host (StateM σ)} {view : FileView σ φ ι} {s after : σ}
    (stores : r.Stores host directory s none after) (sound : host.IsSound view)
    (separates : view.Separates after directory r.artifacts) : r.StandsIn host after directory := by
  cases stores with
  | made _ writes => exact sound.reads_of_writes writes separates

/-- On a machine the files of a report are different files. -/
theorem Stores.separates {m after : Machine} (stores : r.Stores Machine.host directory m none after) :
    Machine.view.Separates after directory r.artifacts := by
  have keeps : Machine.view.KeepsAll after directory r.artifacts := fun _ _ _ _ => trivial
  refine ⟨keeps, r.distinct_artifacts.imp_of_mem fun {a b} a_listed b_listed ne same => ?_⟩
  cases stores with
  | made _ writes =>
      have stands := Machine.isSound_host.exists_fileAt?_of_writes writes keeps
      obtain ⟨place, here⟩ := stands a a_listed
      obtain ⟨beside, there⟩ := stands b b_listed
      have apart := FileSystem.fileAt?_pathIn_ne (r.isFileName_of_mem_artifacts a a_listed)
        (r.isFileName_of_mem_artifacts b b_listed) ne here there
      exact apart (Option.some.inj (here.symm.trans (same.trans there)))

end Report
end TraceAudit
