import TraceAudit.Analysis.Outcome
import TraceAudit.Trace.Role

/-!
# Coverage

How much of a trace was looked at: the records read, by role and by outcome, and the lines that
held none.
-/

namespace TraceAudit

/-- Records by role. All roles that no rule is about are counted together. -/
structure RoleCounts where
  http : Nat
  sql : Nat
  redis : Nat
  mongo : Nat
  s3 : Nat
  other : Nat
  deriving DecidableEq, Repr

/-- Records that no rule could be checked on. -/
structure GapCounts where
  unknownRole : Nat
  uncoveredHost : Nat
  unanalyzableSql : Nat
  deriving DecidableEq, Repr

structure Coverage where
  /-- The records read. -/
  records : Nat
  /-- The lines that hold no record, blank lines apart. -/
  unparsed : Nat
  roles : RoleCounts
  /-- The records that rules were checked on. -/
  analyzed : Nat
  notApplicable : Nat
  gaps : GapCounts
  deriving DecidableEq, Repr

namespace RoleCounts

def zero : RoleCounts := ⟨0, 0, 0, 0, 0, 0⟩

/-- One more record of a role. -/
def add (c : RoleCounts) : Role → RoleCounts
  | .http => { c with http := c.http + 1 }
  | .sql => { c with sql := c.sql + 1 }
  | .store .redis => { c with redis := c.redis + 1 }
  | .store .mongo => { c with mongo := c.mongo + 1 }
  | .store .s3 => { c with s3 := c.s3 + 1 }
  | .other _ => { c with other := c.other + 1 }

def total (c : RoleCounts) : Nat :=
  c.http + c.sql + c.redis + c.mongo + c.s3 + c.other

@[simp] theorem total_add (c : RoleCounts) (role : Role) :
    (c.add role).total = c.total + 1 := by
  unfold add
  split <;> simp only [total] <;> omega

end RoleCounts

namespace GapCounts

def zero : GapCounts := ⟨0, 0, 0⟩

/-- One more gap. -/
def add (c : GapCounts) : Gap → GapCounts
  | .unknownRole => { c with unknownRole := c.unknownRole + 1 }
  | .uncoveredHost => { c with uncoveredHost := c.uncoveredHost + 1 }
  | .unanalyzableSql => { c with unanalyzableSql := c.unanalyzableSql + 1 }

def total (c : GapCounts) : Nat :=
  c.unknownRole + c.uncoveredHost + c.unanalyzableSql

@[simp] theorem total_add (c : GapCounts) (g : Gap) : (c.add g).total = c.total + 1 := by
  cases g <;> simp only [add, total] <;> omega

end GapCounts

namespace Coverage

def zero : Coverage := ⟨0, 0, .zero, 0, 0, .zero⟩

/-- One more line without a record. -/
def addUnparsed (c : Coverage) : Coverage :=
  { c with unparsed := c.unparsed + 1 }

/-- One more record, by its role. -/
def addRecord (c : Coverage) (role : Role) : Coverage :=
  { c with records := c.records + 1, roles := c.roles.add role }

/-- The outcome for a record. -/
def addOutcome (c : Coverage) : Outcome → Coverage
  | .analyzed _ => { c with analyzed := c.analyzed + 1 }
  | .notApplicable => { c with notApplicable := c.notApplicable + 1 }
  | .gap g => { c with gaps := c.gaps.add g }

end Coverage
end TraceAudit
