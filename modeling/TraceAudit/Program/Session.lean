import TraceAudit.Program.Arguments
import TraceAudit.Program.Host

/-!
# Sessions

What the program does with a command line. Rules come first, then the trace, then the files of the
report, and the standard output last; the first that fails ends the session with nothing printed.
What the program logs on its way is left out, and its help is here in short.
-/

namespace TraceAudit

/-- How a session ends. -/
structure Exit where
  code : Int
  /-- All that was printed. -/
  output : String
  /-- What was complained of. -/
  complaint : Option String
  deriving DecidableEq, Repr

namespace Session

/-- The version of the program. -/
def version : String := "0.1.0"

/-- The program as its reports name it. -/
def tool (commit : Option String) : Tool := ⟨"tracegate-cli", version, commit⟩

/-- The end of a session whose rules or whose trace are no good. -/
def fatal (message : String) : Exit := ⟨4, "", some ("error: " ++ message)⟩

/-- The end of a session whose files could not be written. -/
def unwritten (directory : String) (e : FileError) : Exit :=
  ⟨1, "", some ("Error: failed to write artifacts to " ++ directory ++ ": " ++ e.message)⟩

/-- How to call the program. -/
def usage : String :=
  "Deterministic gate for irreversible actions in agent traces\n\n" ++
  "Usage: tracegate [OPTIONS] <COMMAND>\n\n" ++
  "Commands:\n" ++
  "  analyze <INPUT>  Analyze a line-delimited JSON trace\n" ++
  "  rules            Print the effective rule tables as JSON\n" ++
  "  help             Print this message\n\n" ++
  "Options of analyze:\n" ++
  "  --format <FORMAT>  json or text\n" ++
  "  --out <DIR>        Also write findings.json, coverage.json and report.txt\n" ++
  "  --rules <FILE>     TOML file extending or replacing the built-in rule tables\n" ++
  "  --commit <COMMIT>  Optional git commit hash for tool metadata\n\n" ++
  "Options of rules:\n" ++
  "  --rules <FILE>\n\n" ++
  "Options:\n" ++
  "  -v, --verbose\n" ++
  "  -h, --help\n" ++
  "  -V, --version\n"

/-- The rules in force: those of a file if one is named. -/
def loadRules {m : Type → Type} [Monad m] (host : Host m) :
    Option String → m (Except RulesError RuleSet)
  | none => return .ok .builtin
  | some path => RuleSet.ofPath host path

/-- A report as it is printed. -/
def printed (format : OutputFormat) (r : Report) : String :=
  match format with
  | .text => r.text
  | .json => r.pretty ++ "\n"

/-- The end of a session with a report, once its files are written. -/
def deliver {m : Type → Type} [Monad m] (host : Host m) (options : AnalyzeOptions) (r : Report) :
    m Exit := do
  let done : Exit := ⟨r.classification.exitCode, printed options.format r, none⟩
  match options.out with
  | none => return done
  | some directory =>
      match ← r.writeTo host directory with
      | .error e => return unwritten directory e
      | .ok _ => return done

/-- Analyzes a trace. -/
def analyze {m : Type → Type} [Monad m] (host : Host m) (options : AnalyzeOptions) : m Exit := do
  match ← loadRules host options.rules with
  | .error e => return fatal e.message
  | .ok rules =>
      let source := TraceSource.ofArgument options.input
      match ← source.report host rules (tool options.commit) with
      | .error e => return fatal e.message
      | .ok r => deliver host options r

/-- Prints rules. -/
def showRules {m : Type → Type} [Monad m] (host : Host m) (file : Option String) : m Exit := do
  match ← loadRules host file with
  | .error e => return fatal e.message
  | .ok rules => return ⟨0, rules.toJson.pretty ++ "\n", none⟩

/-- Does what was asked for. -/
def run {m : Type → Type} [Monad m] (host : Host m) : Invocation → m Exit
  | .analyze options => analyze host options
  | .rules file => showRules host file
  | .help => return ⟨0, usage, none⟩
  | .version => return ⟨0, "tracegate " ++ version ++ "\n", none⟩
  | .misuse => return ⟨2, "", some usage⟩

/-- Does what a command line asks for. -/
def runArguments {m : Type → Type} [Monad m] (host : Host m) (arguments : List String) : m Exit :=
  run host (.ofArguments arguments)

end Session
end TraceAudit
