import TraceAudit.Analysis.Run
import TraceAudit.Report.Artifacts
import TraceAudit.Rules.Data

/-!
# Hosts

A host is what the program runs on: the files that it can read and write, and its standard input.
What the program does with them is written once, for any host.
-/

namespace TraceAudit

/-- Why a file or directory cannot be used. -/
inductive FileError where
  | notFound
  | alreadyExists
  | notDirectory
  | isDirectory
  | nameTooLong
  | nulInName
  | notUtf8
  | other (reason : String)
  deriving DecidableEq, Repr

/-- The wording of an error, with the system's number for it. -/
def FileError.message : FileError → String
  | .notFound => "No such file or directory (os error 2)"
  | .alreadyExists => "File exists (os error 17)"
  | .notDirectory => "Not a directory (os error 20)"
  | .isDirectory => "Is a directory (os error 21)"
  | .nameTooLong => "File name too long (os error 36)"
  | .nulInName => "file name contained an unexpected NUL byte"
  | .notUtf8 => "stream did not contain valid UTF-8"
  | .other reason => reason

/-- What the program asks of its host. -/
structure Host (m : Type → Type) where
  /-- The text of the file at a path. -/
  readText : String → m (Except FileError String)
  /-- What the file at a path will deliver. -/
  openFile : String → m (Except FileError (List Delivery))
  standardInput : m (List Delivery)
  /-- Makes a directory, and those above it that are missing. -/
  makeDirectory : String → m (Except FileError Unit)
  /-- Makes a file of a text, or makes it the text of a file. -/
  writeText : String → String → m (Except FileError Unit)

/-- Where a trace comes from. -/
inductive TraceSource where
  | standardInput
  | file (path : String)
  deriving DecidableEq, Repr

namespace TraceSource

/-- The source that an argument names: a dash is the standard input. -/
def ofArgument (argument : String) : TraceSource :=
  if argument = "-" then .standardInput else .file argument

/-- What a source is called in reports. -/
def name : TraceSource → String
  | .standardInput => "<stdin>"
  | .file path => path

/-- What a source will deliver. -/
def deliveries {m : Type → Type} [Monad m] (host : Host m) :
    TraceSource → m (Except FileError (List Delivery))
  | .standardInput => return .ok (← host.standardInput)
  | .file path => host.openFile path

/-- The report on a source. -/
def report {m : Type → Type} [Monad m] (host : Host m) (s : TraceSource) (rules : RuleSet)
    (tool : Tool) : m (Except RunError Report) := do
  match ← s.deliveries host with
  | .error e => return .error (.notOpened s.name e.message)
  | .ok source => return audit source s.name rules tool

end TraceSource

/-- The rules of the file at a path. -/
def RuleSet.ofPath {m : Type → Type} [Monad m] (host : Host m) (path : String) :
    m (Except RulesError RuleSet) := do
  match ← host.readText path with
  | .error e => return .error (.read path e.message)
  | .ok document => return RuleSet.ofToml document

/-- The path of a name in a directory. -/
def pathIn (directory name : String) : String :=
  if directory.isEmpty || directory.toList.getLast? = some '/' then directory ++ name
  else directory ++ "/" ++ name

/-- Writes artifacts into a directory one by one, up to the first that cannot be written. -/
def writeArtifacts {m : Type → Type} [Monad m] (host : Host m) (directory : String) :
    List Artifact → m (Except FileError (List String))
  | [] => return .ok []
  | a :: rest => do
      let path := pathIn directory a.name
      match ← host.writeText path a.content with
      | .error e => return .error e
      | .ok () => return (← writeArtifacts host directory rest).map (path :: ·)

/-- Writes the files of a report into a directory, which is made if it is missing, and gives their
paths. -/
def Report.writeTo {m : Type → Type} [Monad m] (host : Host m) (directory : String)
    (r : Report) : m (Except FileError (List String)) := do
  match ← host.makeDirectory directory with
  | .error e => return .error e
  | .ok () => writeArtifacts host directory r.artifacts

end TraceAudit
