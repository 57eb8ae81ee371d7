/-!
# Arguments

What a command line asks for. Arguments are taken from left to right, and the first one that asks
for help, asks for the version or is out of place decides; only then may something be found
missing.
-/

namespace TraceAudit

/-- How a report is written to the standard output. -/
inductive OutputFormat where
  | text
  | json
  deriving DecidableEq, Repr

/-- What to analyze and what to do with the report. -/
structure AnalyzeOptions where
  input : String
  format : OutputFormat
  /-- The directory for the files of the report. -/
  out : Option String
  /-- The rules file. -/
  rules : Option String
  commit : Option String
  deriving DecidableEq, Repr

inductive Invocation where
  | analyze (options : AnalyzeOptions)
  /-- Print the rules, with those of a rules file if one is named. -/
  | rules (file : Option String)
  | help
  | version
  | misuse
  deriving DecidableEq, Repr

namespace Invocation

/-! ## Commands and their options -/

/-- What a command takes. -/
structure CommandSyntax where
  /-- Whether it can be asked for the version. -/
  hasVersion : Bool
  /-- The names of the options that take a value. -/
  options : List String
  /-- How many arguments it takes beside its options. -/
  operands : Nat

/-- The program itself, before a command is named. -/
def programSyntax : CommandSyntax := ⟨true, [], 0⟩

def analyzeSyntax : CommandSyntax := ⟨false, ["format", "out", "rules", "commit"], 1⟩

def rulesSyntax : CommandSyntax := ⟨false, ["rules"], 0⟩

/-- The output format of a name. -/
def format? (name : String) : Option OutputFormat :=
  if name = "text" then some .text
  else if name = "json" then some .json
  else none

/-- Whether an option takes a value. A path may not be empty. -/
def accepts (name value : String) : Bool :=
  if name = "format" then (format? value).isSome
  else name = "commit" || !value.isEmpty

/-! ## Single arguments -/

/-- What an argument is, if it is in its place. -/
inductive Argument where
  | operand (value : String)
  /-- Letters that each stand for a flag. -/
  | flags (letters : List Char)
  /-- An option whose value is the next argument. -/
  | option (name : String)
  /-- An option with its value. -/
  | assigned (name value : String)
  /-- The mark after which all arguments are operands. -/
  | endOfOptions
  | unknown
  deriving DecidableEq, Repr

/-- The letter of a flag's long name. -/
def flagLetter? (name : List Char) : Option Char :=
  if name = "help".toList then some 'h'
  else if name = "verbose".toList then some 'v'
  else if name = "version".toList then some 'V'
  else none

/-- An argument after two dashes. -/
def Argument.ofLong (s : CommandSyntax) (chars : List Char) : Argument :=
  let name := chars.takeWhile (· != '=')
  let isOption := s.options.contains (String.ofList name)
  match chars.dropWhile (· != '=') with
  | _ :: value =>
      if isOption then .assigned (String.ofList name) (String.ofList value) else .unknown
  | [] =>
      if isOption then .option (String.ofList name)
      else
        match flagLetter? name with
        | some letter => .flags [letter]
        | none => .unknown

/-- What a text is as an argument. A single dash is an operand. -/
def Argument.ofText (s : CommandSyntax) (text : String) : Argument :=
  match text.toList with
  | ['-', '-'] => .endOfOptions
  | '-' :: '-' :: chars => .ofLong s chars
  | '-' :: letter :: letters => .flags (letter :: letters)
  | _ => .operand text

/-- Whether a text can be the value of an option before it. -/
def canBeValue (text : String) : Bool :=
  match text.toList with
  | '-' :: _ :: _ => false
  | _ => true

/-! ## All arguments of a command -/

/-- What was given to a command. -/
structure Given where
  isVerbose : Bool
  values : List (String × String)
  operands : List String
  deriving DecidableEq, Repr

def Given.nothing : Given := ⟨false, [], []⟩

/-- Adds a flag. Asking for help or the version ends the matter. -/
def Given.addFlag (s : CommandSyntax) (g : Given) (letter : Char) : Except Invocation Given :=
  if letter = 'h' then .error .help
  else if letter = 'V' ∧ s.hasVersion then .error .version
  else if letter = 'v' ∧ ¬ g.isVerbose then .ok { g with isVerbose := true }
  else .error .misuse

/-- Adds an option, which may be given once. -/
def Given.addValue (g : Given) (name value : String) : Except Invocation Given :=
  if (g.values.lookup name).isNone && accepts name value then
    .ok { g with values := (name, value) :: g.values }
  else .error .misuse

def Given.addOperand (s : CommandSyntax) (g : Given) (value : String) : Except Invocation Given :=
  if g.operands.length < s.operands then .ok { g with operands := g.operands ++ [value] }
  else .error .misuse

/-- What the arguments of a command give. -/
def Given.read (s : CommandSyntax) (g : Given) : List String → Except Invocation Given
  | [] => .ok g
  | text :: rest =>
      match Argument.ofText s text with
      | .operand value => do read s (← g.addOperand s value) rest
      | .flags letters => do read s (← letters.foldlM (addFlag s) g) rest
      | .assigned name value => do read s (← g.addValue name value) rest
      | .endOfOptions => rest.foldlM (addOperand s) g
      | .unknown => .error .misuse
      | .option name =>
          match rest with
          | [] => .error .misuse
          | value :: others =>
              if canBeValue value then do read s (← g.addValue name value) others
              else .error .misuse
  termination_by texts => texts.length

/-- The analysis that was asked for; the input has to be named. -/
def ofAnalyze (arguments : List String) : Except Invocation Invocation := do
  let given ← Given.nothing.read analyzeSyntax arguments
  match given.operands with
  | [] => return .misuse
  | input :: _ => return .analyze {
      input
      format := ((given.values.lookup "format").bind format?).getD .text
      out := given.values.lookup "out"
      rules := given.values.lookup "rules"
      commit := given.values.lookup "commit" }

def ofRules (arguments : List String) : Except Invocation Invocation := do
  let given ← Given.nothing.read rulesSyntax arguments
  return .rules (given.values.lookup "rules")

/-- Help on the program or on one of its commands. -/
def ofHelp : List String → Invocation
  | [] => .help
  | [command] => if ["analyze", "rules", "help"].contains command then .help else .misuse
  | _ => .misuse

/-- What the arguments ask for, given those before a command is named. -/
def fromGiven (g : Given) : List String → Except Invocation Invocation
  | [] => .ok .misuse
  | text :: rest =>
      if text = "analyze" then ofAnalyze rest
      else if text = "rules" then ofRules rest
      else if text = "help" then .ok (ofHelp rest)
      else
        match Argument.ofText programSyntax text with
        | .flags letters => do fromGiven (← letters.foldlM (Given.addFlag programSyntax) g) rest
        | _ => .error .misuse

/-- What a command line asks for. -/
def ofArguments (arguments : List String) : Invocation :=
  match fromGiven .nothing arguments with
  | .ok invocation => invocation
  | .error early => early

end Invocation
end TraceAudit
