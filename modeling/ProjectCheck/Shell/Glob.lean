import ProjectCheck.Shell.Machine
import ProjectCheck.Shell.Pattern

/-!
# Patterns of paths

A pattern of paths holds a pattern of names between slashes; it stands for the paths on a disk that
fit, in order.
-/

namespace ProjectCheck.Shell

open ProjectCheck.Disk

/-- A path one name further down. -/
def pathBelow (path name : String) : String :=
  if path.toList.getLast? == some '/' then path ++ name else path ++ "/" ++ name

mutual

/-- The paths of the files at and below a path. -/
def filePaths (path : String) : Node → List String
  | .directory entries => filePathsAmong path entries
  | .file _ => [path]
  | .link _ => []

/-- The paths of the files among entries of a directory and below them. -/
def filePathsAmong (path : String) : List (String × Node) → List String
  | [] => []
  | (name, node) :: rest => filePaths (pathBelow path name) node ++ filePathsAmong path rest

end

/-- A path one name further on; at the beginning the empty name leads to the top. -/
def pathOnward (path name : String) : String :=
  if path.isEmpty then (if name.isEmpty then "/" else name) else pathBelow path name

/-- The names in the directory that a path leads to, in order, those that each directory has for
itself and for the one above it included. -/
def namesAt (m : Machine) (path : String) : List String :=
  match m.reach? (if path.isEmpty then "." else path) with
  | some (.directory entries) =>
    ("." :: ".." :: entries.map (·.1)).mergeSort fun a b => decide (a ≤ b)
  | _ => []

/-- The paths from a path on that fit the patterns between slashes. -/
def pathsThatFit (m : Machine) (path : String) : List Pattern → List String
  | [] => if (m.reach? path).isSome then [path] else []
  | pattern :: rest =>
    match pattern.literal? with
    | some name => pathsThatFit m (pathOnward path (String.ofList name)) rest
    | none =>
      let names := (namesAt m path).filter fun name =>
        pattern.mayFind name.toList && pattern.fits name.toList
      names.flatMap fun name => pathsThatFit m (pathOnward path name) rest

/-- The text of a piece. -/
def textOf (piece : Piece) : String :=
  String.ofList (piece.map (·.1))

/-- The patterns between the slashes of a piece. -/
def patternsOf (piece : Piece) : List Pattern :=
  (piece.splitOnP fun (c, _) => c == '/').map Pattern.ofPiece

/-- The paths that a piece stands for, or else its text. -/
def pathsOf (m : Machine) (piece : Piece) : List String :=
  let patterns := patternsOf piece
  if patterns.all fun pattern => pattern.literal?.isSome then [textOf piece]
  else
    match pathsThatFit m "" patterns with
    | [] => [textOf piece]
    | paths => paths

end ProjectCheck.Shell
