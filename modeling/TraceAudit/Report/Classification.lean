import TraceAudit.Report.Finding

/-!
# Classification

The verdict on a run depends on nothing but the severities of its findings: one that blocks makes it
blocked, and any other makes it advisory.
-/

namespace TraceAudit

/-- How a run is judged. -/
inductive Level where
  | clean
  | advisory
  | blocked
  deriving DecidableEq, Repr

namespace Level

def all : List Level := [clean, advisory, blocked]

/-- The name of a level in reports. -/
def name : Level → String
  | clean => "CLEAN"
  | advisory => "ADVISORY"
  | blocked => "BLOCKED"

/-- The level of a name. -/
def ofName? (s : String) : Option Level :=
  all.find? (·.name == s)

/-- The level for the worst severity found. -/
def ofWorst : Option Severity → Level
  | none => clean
  | some .info => advisory
  | some .warning => advisory
  | some .blocker => blocked

/-- What the program exits with: only a blocked run fails. -/
def exitCode : Level → Int
  | clean => 0
  | advisory => 0
  | blocked => 2

@[simp] theorem ofName?_name (l : Level) : ofName? l.name = some l := by
  cases l <;> decide

end Level

structure Classification where
  level : Level
  /-- The worst severity found. -/
  worst : Option Severity
  /-- How many findings block. -/
  blockers : Nat
  exitCode : Int
  deriving DecidableEq, Repr

/-- The worst of some severities. -/
def Severity.worst? (severities : List Severity) : Option Severity :=
  severities.foldl (fun worst s => some (worst.elim s (·.max s))) none

/-- The verdict on findings. -/
def Classification.ofFindings (findings : List Finding) : Classification :=
  let worst := Severity.worst? (findings.map (·.severity))
  let level := Level.ofWorst worst
  { level
    worst
    blockers := findings.countP (·.severity = .blocker)
    exitCode := level.exitCode }

end TraceAudit
