import ProjectCheck.Path
import ProjectCheck.Text.Lowercase

/-!
# File trees

The paths of a project's files as one listing shows them.  Only membership matters: paths are
kept sorted and without repetition, so nothing that is derived from a tree depends on the order of
the listing.
-/

namespace ProjectCheck

open ProjectCheck.Text

/-- The paths of a project's files, sorted and without repetition. -/
structure FileTree where
  paths : List String
deriving Repr, DecidableEq, Inhabited

namespace FileTree

/-- The path that a line of a listing stands for; a blank line stands for none. -/
def pathOfLine? (line : List Char) : Option String :=
  match trim line with
  | [] => none
  | path => some (String.ofList (dropLead ['.', '/'] path))

/-- The tree of some lines of a listing. -/
def ofLines (lines : List (List Char)) : FileTree :=
  ⟨(lines.filterMap pathOfLine?).eraseDups.mergeSort fun a b => decide (a ≤ b)⟩

/-- The tree of the text of a listing. -/
def ofListing (listing : String) : FileTree :=
  ofLines (textLines listing.toList)

/-- How many files a tree has. -/
def size (tree : FileTree) : Nat :=
  tree.paths.length

/-- Whether a path is in a tree. -/
def contains (tree : FileTree) (path : String) : Bool :=
  tree.paths.contains path

/-! ## Similar paths -/

/-- The name of a file without its extension, in lower case. -/
def stem (path : String) : List Char :=
  lower (Path.dropSourceExtension (Path.lastSegment path.toList))

/-- Whether a path is a better match for a name than another, or as good: a file of exactly that
name comes first, then the shorter path. -/
def matchesBetter (name : List Char) (a b : String) : Bool :=
  let exactA := stem a == name
  let exactB := stem b == name
  if exactA != exactB then exactA
  else if a.length != b.length then a.length < b.length
  else decide (a ≤ b)

/-- The paths that hold a name, whatever the case, best match first. -/
def similar (tree : FileTree) (name : List Char) : List String :=
  if name.isEmpty then []
  else
    let wanted := lower name
    (tree.paths.filter fun path => occursIn wanted (lower path.toList)).mergeSort
      (matchesBetter wanted)

end FileTree

end ProjectCheck
