import TraceAudit.Program.Host
import TraceAudit.Text.Cut

/-!
# File systems

A tree of files and directories, as the list of what stands at each place, and the host that such a
tree makes together with a standard input. A path is walked name by name, so that it leads through
directories only, and `.` and `..` are taken where the walk has come to.
-/

namespace TraceAudit

/-- The names on the way from the root to a place. -/
abbrev Place := List String

inductive FileNode where
  | file (content : Bytes)
  | directory
  deriving DecidableEq, Repr

structure FileSystem where
  nodes : List (Place × FileNode)
  /-- Where a path begins that does not begin at the root. -/
  workingDirectory : Place
  deriving DecidableEq, Repr

namespace FileSystem

/-- The longest name that a file or directory may have, in bytes. -/
def maxNameSize : Nat := 255

/-- The size in bytes from which on a path is too long. -/
def pathSizeLimit : Nat := 4096

/-- What stands at a place. The root is always there. -/
def node? (fs : FileSystem) : Place → Option FileNode
  | [] => some .directory
  | place => fs.nodes.lookup place

/-- Puts something at a place, instead of what stands there. -/
def put (fs : FileSystem) (place : Place) (node : FileNode) : FileSystem :=
  { fs with nodes := (place, node) :: fs.nodes.filter (·.1 != place) }

/-- The names in a path. -/
def names (path : String) : List String :=
  ((Text.pieces (· == '/') path.toList).filter (!·.isEmpty)).map String.ofList

/-- Where a path begins. -/
def origin (fs : FileSystem) (path : String) : Place :=
  if path.toList.head? = some '/' then [] else fs.workingDirectory

/-- What is wrong with a path as such. -/
def pathError? (path : String) : Option FileError :=
  if path.toList.any (·.toNat == 0) then some .nulInName
  else if path.isEmpty then some .notFound
  else if pathSizeLimit ≤ path.utf8ByteSize then some .nameTooLong
  else none

/-- The place of a name as seen from another place. -/
def enter (fs : FileSystem) (place : Place) (name : String) : Except FileError Place :=
  match fs.node? place with
  | none => .error .notFound
  | some (.file _) => .error .notDirectory
  | some .directory =>
      if name = "." then .ok place
      else if name = ".." then .ok place.dropLast
      else if maxNameSize < name.utf8ByteSize then .error .nameTooLong
      else .ok (place ++ [name])

/-- The place that a path leads to, where nothing need stand unless the path ends in a slash. -/
def locate (fs : FileSystem) (path : String) : Except FileError Place := do
  match pathError? path with
  | some e => throw e
  | none =>
      let place ← (names path).foldlM fs.enter (fs.origin path)
      if path.toList.getLast? = some '/' then fs.enter place "." else return place

/-- The bytes of the file at a path. -/
def read (fs : FileSystem) (path : String) : Except FileError Bytes := do
  match fs.node? (← fs.locate path) with
  | none => throw .notFound
  | some .directory => throw .isDirectory
  | some (.file content) => return content

/-- The text of the file at a path. -/
def readText (fs : FileSystem) (path : String) : Except FileError String := do
  match Text.decodeUtf8? (← fs.read path) with
  | none => throw .notUtf8
  | some text => return text

/-- What the file at a path will deliver. A directory can be opened, but not read. -/
def openFile (fs : FileSystem) (path : String) : Except FileError (List Delivery) :=
  match fs.read path with
  | .error .isDirectory => .ok [.failure FileError.isDirectory.message]
  | .error e => .error e
  | .ok content => .ok [.bytes content]

/-- Puts a file at a path. -/
def write (fs : FileSystem) (path : String) (content : Bytes) : Except FileError FileSystem := do
  let place ← fs.locate path
  if fs.node? place = some .directory then throw .isDirectory
  return fs.put place (.file content)

/-- Walks from a place and makes the directories that are missing on the way. What was made stays
there if the walk fails. A path that ends in a dot names a directory that has to be there. -/
def makeDirectories (fs : FileSystem) (place : Place) :
    List String → FileSystem × Except FileError Unit
  | [] => (fs, .ok ())
  | name :: rest =>
      match fs.enter place name with
      | .error e => (fs, .error e)
      | .ok next =>
          match fs.node? next with
          | some .directory => makeDirectories fs next rest
          | some (.file _) =>
              (fs, .error (if rest.isEmpty then .alreadyExists else .notDirectory))
          | none =>
              if !rest.isEmpty && rest.all (· == ".") then (fs, .error .notFound)
              else makeDirectories (fs.put next .directory) next rest

/-- Makes the directory at a path. The empty path is where it begins. -/
def makeDirectory (fs : FileSystem) (path : String) : FileSystem × Except FileError Unit :=
  if path.isEmpty then (fs, .ok ())
  else
    match pathError? path with
    | some e => (fs, .error e)
    | none => makeDirectories fs (fs.origin path) (names path)

end FileSystem

/-- A file system and what stands ready at the standard input. -/
structure Machine where
  files : FileSystem
  standardInput : List Delivery
  deriving Repr

namespace Machine

/-- Makes a directory at a path. -/
def makeDirectory (path : String) : StateM Machine (Except FileError Unit) := do
  let machine ← get
  let (files, result) := machine.files.makeDirectory path
  set { machine with files }
  return result

/-- Writes the text of a file. -/
def writeText (path content : String) : StateM Machine (Except FileError Unit) := do
  let machine ← get
  match machine.files.write path (Text.encodeUtf8 content) with
  | .error e => return .error e
  | .ok files =>
      set { machine with files }
      return .ok ()

/-- Takes all that stands ready at the standard input. -/
def takeInput : StateM Machine (List Delivery) := do
  let machine ← get
  set { machine with standardInput := [] }
  return machine.standardInput

/-- A machine as a host. -/
def host : Host (StateM Machine) where
  readText path := return (← get).files.readText path
  openFile path := return (← get).files.openFile path
  standardInput := takeInput
  makeDirectory := makeDirectory
  writeText := writeText

end Machine
end TraceAudit
