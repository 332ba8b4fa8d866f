import ProjectCheck.Disk.Node

/-!
# Following paths

A path may go up with `..` and through links.  There are two ways to follow it.

`canonical?` finds the location that a path means, whether anything stands there or not: a link on
the way is replaced by its target, and `..` drops the last name of the location found so far.
`reach?` goes to what stands there, so each step but the last has to lead to a directory.

Links can lead in a circle.  Inside of a circle the same link is opened again before it has been
followed to its end, so no path that can be followed needs more links open at once than there are.
-/

namespace ProjectCheck.Disk

/-- Whether a name stands for the directory that it is found in. -/
def isHere (name : String) : Bool :=
  name.isEmpty || name == "."

/-- Follows names from a location, with a number of links that may be open at once. -/
def walk? (disk : Node) (spare : Nat) (here : Location) (names : List String) : Option Location :=
  match names with
  | [] => some here
  | name :: rest =>
    if isHere name then walk? disk spare here rest
    else if name == ".." then walk? disk spare here.dropLast rest
    else
      match (disk.at? (here ++ [name])).bind Node.target? with
      | none => walk? disk spare (here ++ [name]) rest
      | some target =>
        match spare with
        | 0 => none
        | spare + 1 =>
          (walk? disk spare (here.start target) (Location.namesOf target)).bind fun there =>
            walk? disk (spare + 1) there rest
termination_by (spare, names.length)

/-- The location that a path means at a location; nothing if its links lead in a circle. -/
def canonical? (disk : Node) (base : Location) (path : String) : Option Location :=
  walk? disk disk.linkCount (base.start path) (Location.namesOf path)

/-- Why something on a disk cannot be used. -/
inductive Obstruction where
  /-- There is nothing under the name. -/
  | missing
  /-- What should be a directory is none. -/
  | notDirectory
  | isDirectory
  | endlessLinks
  | longName
  /-- There is something under the name already. -/
  | isThere
  | notEmpty
  | forbidden
  | badName
  | closedStream
deriving Repr, DecidableEq

namespace Obstruction

/-- What is said of an obstruction. -/
def message : Obstruction → String
  | missing => "No such file or directory"
  | notDirectory => "Not a directory"
  | isDirectory => "Is a directory"
  | endlessLinks => "Too many levels of symbolic links"
  | longName => "File name too long"
  | isThere => "File exists"
  | notEmpty => "Directory not empty"
  | forbidden => "Permission denied"
  | badName => "Invalid argument"
  | closedStream => "Bad file descriptor"

end Obstruction

/-- How many bytes a name may have. -/
def nameLimit : Nat :=
  255

/-- How many bytes a path may have. -/
def pathLimit : Nat :=
  4095

/-- Goes along names from a location, with a number of links that may be open at once. -/
def go (disk : Node) (spare : Nat) (here : Location) (names : List String) :
    Except Obstruction Location :=
  match names with
  | [] => .ok here
  | name :: rest =>
    match disk.at? here with
    | none => .error .missing
    | some node =>
      if !node.isDirectory then .error .notDirectory
      else if isHere name then go disk spare here rest
      else if name == ".." then go disk spare here.dropLast rest
      else if nameLimit < name.utf8ByteSize then .error .longName
      else
        match disk.at? (here ++ [name]) with
        | none => .error .missing
        | some node =>
          match node.target? with
          | none => go disk spare (here ++ [name]) rest
          | some target =>
            match spare with
            | 0 => .error .endlessLinks
            | spare + 1 =>
              match go disk spare (here.start target) (Location.namesOf target) with
              | .error why => .error why
              | .ok there => go disk (spare + 1) there rest
termination_by (spare, names.length)

/-- What stands where a path leads from a location, or why it leads nowhere. -/
def reach (disk : Node) (base : Location) (path : String) : Except Obstruction Node :=
  if path.isEmpty then .error .missing
  else if pathLimit < path.utf8ByteSize then .error .longName
  else
    match go disk disk.linkCount (base.start path) (Location.namesOf path) with
    | .error why => .error why
    | .ok location =>
      match disk.at? location with
      | some node => .ok node
      | none => .error .missing

/-- What stands where a path leads from a location. -/
def reach? (disk : Node) (base : Location) (path : String) : Option Node :=
  (reach disk base path).toOption

end ProjectCheck.Disk
