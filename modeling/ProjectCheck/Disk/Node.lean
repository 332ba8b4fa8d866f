import ProjectCheck.Path
import ProjectCheck.Table

/-!
# Files on a disk

A disk is a tree of directories, files and symbolic links.  A `Location` is the way from the top to a
node by names alone: it goes through directories only, never through a link, so a node has one
location and no other.
-/

namespace ProjectCheck.Disk

/-- What stands at a location. -/
inductive Node where
  | file (content : List UInt8)
  | link (target : String)
  | directory (entries : List (String × Node))
deriving Repr, BEq, Inhabited

/-- The names on the way from the top to a node. -/
abbrev Location := List String

namespace Node

/-- A directory without entries. -/
def empty : Node :=
  directory []

/-- Whether a node is a directory. -/
def isDirectory : Node → Bool
  | directory _ => true
  | _ => false

/-- The content of a file. -/
def content? : Node → Option (List UInt8)
  | file content => some content
  | _ => none

/-- The target of a link. -/
def target? : Node → Option String
  | link target => some target
  | _ => none

/-- The entries of a directory. -/
def entries : Node → List (String × Node)
  | directory entries => entries
  | _ => []

/-- The node at a location. -/
def at? (node : Node) : Location → Option Node
  | [] => some node
  | name :: rest => (Table.get? name node.entries).bind fun inner => inner.at? rest

/-- The tree with a node put at a location, and directories on the way to it.  What stood in the way
and is no directory is replaced. -/
def put (new : Node) : Location → Node → Node
  | [], _ => new
  | name :: rest, node =>
    let inner := (Table.get? name node.entries).getD empty
    directory (Table.put name (put new rest inner) node.entries)

/-- The tree without what stands at a location; the top itself stays. -/
def remove (node : Node) : Location → Node
  | [] => node
  | [name] => directory (Table.erase name node.entries)
  | name :: rest =>
    match Table.get? name node.entries with
    | none => node
    | some inner => directory (Table.put name (inner.remove rest) node.entries)

mutual

/-- How many links a tree holds. -/
def linkCount : Node → Nat
  | file _ => 0
  | link _ => 1
  | directory entries => linkCounts entries

/-- How many links some entries hold. -/
def linkCounts : List (String × Node) → Nat
  | [] => 0
  | (_, node) :: rest => linkCount node + linkCounts rest

end

end Node

namespace Location

/-- The names of a path, the empty ones and the dots among them. -/
def namesOf (path : String) : List String :=
  (Text.pieces '/' path.toList).map String.ofList

/-- Where a path starts that is given at a location. -/
def start (base : Location) (path : String) : Location :=
  if Path.isAbsolute path.toList then [] else base

/-- A location as a path. -/
def text (location : Location) : String :=
  "/" ++ "/".intercalate location

/-- Whether a location is at or below another. -/
def isWithin (location base : Location) : Bool :=
  base.isPrefixOf location

/-- The way from a location down to another, if there is one. -/
def below? (base location : Location) : Option Location :=
  if location.isWithin base then some (location.drop base.length) else none

end Location

end ProjectCheck.Disk
