import ProjectCheck.Disk.Walk
import ProjectCheck.Shell.Mode
import ProjectCheck.Text.Cut
import ProjectCheck.Text.Utf8

/-!
# Local sandboxes

Directories of a disk that serve as sandboxes.  All of them stand below one root directory, and a
sandbox is named by its path from there.  A path may go anywhere on its way, but what it leads to
has to stand in the sandbox, links and all; else there is nothing to read.
-/

namespace ProjectCheck.Sandbox

open ProjectCheck.Disk ProjectCheck.Text

/-- The directory of all local sandboxes on a disk. -/
structure LocalHost where
  disk : Node
  root : Location
  /-- The permissions of what has others than are usual. -/
  modes : Table Location Shell.Mode := []
deriving Repr

/-- Why a local sandbox gives no file. -/
inductive LocalFault where
  | noSandbox (sandbox : String)
  | noFile (sandbox path : String)
  /-- The links of a path lead in a circle. -/
  | endlessLinks
  /-- A path or a command holds a character that it cannot hold. -/
  | unusableText
  /-- A name, a path or a command is longer than the system can take. -/
  | tooLong
deriving Repr, DecidableEq

namespace LocalFault

/-- What a fault says. -/
def message : LocalFault → String
  | noSandbox sandbox => "No sandbox directory: " ++ sandbox
  | noFile sandbox path => "No such file in sandbox " ++ sandbox ++ ": " ++ path
  | endlessLinks => "Too many links"
  | unusableText => "Unusable text"
  | tooLong => "Too long"

end LocalFault

/-- How many bytes a name may have. -/
def nameLimit : Nat := 255

/-- How many bytes a path may have. -/
def pathLimit : Nat := 4095

/-- How many bytes a command may have. -/
def commandLimit : Nat := 131071

/-- Whether a name that is too long is looked for in a directory on the way from a node. -/
def meetsLongName (node : Node) : Location → Bool
  | [] => false
  | name :: rest =>
    node.isDirectory &&
      (name.utf8ByteSize > nameLimit ||
        (Table.get? name node.entries).any fun inner => meetsLongName inner rest)

/-- Whether the system can look for a location. -/
def isTooLong (disk : Node) (location : Location) : Bool :=
  location.text.utf8ByteSize > pathLimit || meetsLongName disk location

/-- The location that a path means. -/
def locate (disk : Node) (base : Location) (path : String) : Except LocalFault Location :=
  if path.toList.contains '\x00' then .error .unusableText
  else
    match canonical? disk base path with
    | some location => .ok location
    | none => .error .endlessLinks

/-- The text of a file; bytes that are no text are replaced. -/
def fileText (content : List UInt8) : String :=
  String.ofList (unifyLineEnds (decodeUtf8 content))

namespace LocalHost

/-- The directory of a sandbox. -/
def projectOf (host : LocalHost) (sandbox : String) : Except LocalFault Location := do
  let location ← locate host.disk host.root sandbox
  if !location.isWithin host.root then throw (.noSandbox sandbox)
  if isTooLong host.disk location then throw .tooLong
  if (host.disk.at? location).any Node.isDirectory then return location
  else throw (.noSandbox sandbox)

/-- The text of a file of a sandbox. -/
def readText (host : LocalHost) (sandbox path : String) : Except LocalFault String := do
  let project ← host.projectOf sandbox
  let location ← locate host.disk project path
  if !location.isWithin project then throw (.noFile sandbox path)
  if isTooLong host.disk location then throw .tooLong
  match (host.disk.at? location).bind Node.content? with
  | some content => return fileText content
  | none => throw (.noFile sandbox path)

end LocalHost

end ProjectCheck.Sandbox
