import TraceAudit.Program.Session

/-!
# The program

The host that the system itself is, and the program on it.
-/

namespace TraceAudit

/-- What an error of the system means. -/
def FileError.ofSystem : IO.Error → FileError
  | .noFileOrDirectory _ _ _ => .notFound
  | .alreadyExists _ _ _ => .alreadyExists
  | .inappropriateType _ 20 _ => .notDirectory
  | .inappropriateType _ 21 _ => .isDirectory
  | .invalidArgument _ 36 _ => .nameTooLong
  | e => .other e.toString

/-- An action with the error of the system that may come of it. -/
def attempt {α : Type} (action : IO α) : IO (Except FileError α) := do
  match ← action.toBaseIO with
  | .ok found => return .ok found
  | .error e => return .error (.ofSystem e)

/-- All that a stream gives, with the failure that may end it. -/
def deliveriesOf (bytes : IO ByteArray) : IO (List Delivery) := do
  match ← attempt bytes with
  | .ok found => return [.bytes found.toList]
  | .error e => return [.failure e.message]

/-- The text of the file at a path. -/
def readFileText (path : String) : IO (Except FileError String) := do
  match ← attempt (IO.FS.readBinFile path) with
  | .error e => return .error e
  | .ok found =>
      match Text.decodeUtf8? found.toList with
      | none => return .error .notUtf8
      | some text => return .ok text

/-- What the file at a path will deliver. -/
def openFileAt (path : String) : IO (Except FileError (List Delivery)) := do
  match ← attempt (IO.FS.Handle.mk path .read) with
  | .error e => return .error e
  | .ok handle => return .ok (← deliveriesOf handle.readBinToEnd)

/-- The system as a host. -/
def systemHost : Host IO where
  readText := readFileText
  openFile := openFileAt
  standardInput := do deliveriesOf (← IO.getStdin).readBinToEnd
  makeDirectory path := attempt (if path.isEmpty then pure () else IO.FS.createDirAll path)
  writeText path content := attempt (IO.FS.writeFile path content)

end TraceAudit

/-- Runs the program on its arguments. -/
def main (arguments : List String) : IO UInt32 := do
  let result ← TraceAudit.Session.runArguments TraceAudit.systemHost arguments
  IO.print result.output
  if let some complaint := result.complaint then
    IO.eprintln complaint
  return UInt32.ofNat result.code.toNat
