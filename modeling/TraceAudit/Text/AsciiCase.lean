/-!
# Letter case

Only the twenty-six letters of ASCII have a case here; every other character stands for itself.
-/

namespace TraceAudit.Text

/-- A text with its capital ASCII letters made small. -/
def lower (s : String) : String :=
  String.ofList (s.toList.map Char.toLower)

/-- A text with its small ASCII letters made capital. -/
def upper (s : String) : String :=
  String.ofList (s.toList.map Char.toUpper)

/-- Whether two texts differ at most in the case of ASCII letters. -/
def sameIgnoringCase (a b : String) : Bool :=
  lower a == lower b

theorem sameIgnoringCase_iff (a b : String) :
    sameIgnoringCase a b = true ↔ lower a = lower b := by
  simp [sameIgnoringCase]

theorem sameIgnoringCase_refl (a : String) : sameIgnoringCase a a = true := by
  simp [sameIgnoringCase]

end TraceAudit.Text
