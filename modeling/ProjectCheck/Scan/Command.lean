import ProjectCheck.Path
import ProjectCheck.Shell.Word

/-!
# Scan commands

The shell commands that a scan sends.  One lists the source files below a directory; the other
prints selected files with their contents, each between two delimiters, in a single round trip.

Files are selected in the order of the finds: those in the source directory itself, those in the
directories that matter most, and then all others.  A file that is found again is printed once, and
no more than a set number of files is printed.
-/

namespace ProjectCheck.Scan

open ProjectCheck.Shell

/-! ## Finding files -/

/-- A search for files by extension below some directories. -/
structure FileSearch where
  roots : List String
  /-- Whether only the directories themselves are searched. -/
  shallow : Bool := false
  extensions : List String := Path.sourceExtensions
  /-- Patterns of file names that are left out. -/
  excludedNames : List String := []
  /-- Patterns of paths that are left out. -/
  excludedPaths : List String := []
deriving Repr, DecidableEq

/-- Strings with blanks between them. -/
def spaced (parts : List String) : String :=
  " ".intercalate parts

/-- A pattern in double quotes. -/
def pattern (glob : String) : String :=
  "\"" ++ glob ++ "\""

/-- The test that a file name ends in one of some extensions. -/
def nameTest (extensions : List String) : String :=
  "\\( " ++ " -o ".intercalate (extensions.map fun e => "-name " ++ pattern ("*" ++ e)) ++ " \\)"

/-- The command of a search; it prints one path on each line and no complaints. -/
def FileSearch.command (f : FileSearch) : String :=
  spaced (["find"] ++ f.roots.map quote ++ (if f.shallow then ["-maxdepth 1"] else []) ++
    ["-type f", nameTest f.extensions] ++
    f.excludedNames.map (fun glob => "! -name " ++ pattern glob) ++
    f.excludedPaths.map (fun glob => "! -path " ++ pattern glob) ++ ["2>/dev/null"])

/-- A script handed to a shell. -/
def inShell (script : String) : String :=
  "bash -c " ++ quote script

/-- The command that lists the source files below a directory. -/
def treeCommand (root : String) (extensions : List String := Path.sourceExtensions) : String :=
  inShell (FileSearch.command { roots := [root], extensions })

/-! ## Selecting files -/

/-- Patterns of file names that are never selected. -/
def excludedNames : List String :=
  ["*.test.*", "*.spec.*", "*.stories.*", "*.mock.*", "*.d.ts"]

/-- The pattern of paths in the generated interface library. -/
def interfaceLibraryPaths : String :=
  "*/components/ui/*"

/-- Patterns of paths that the search for all other files leaves out. -/
def excludedPaths : List String :=
  ["*/test/*", "*/tests/*", "*/__tests__/*", "*/__mocks__/*", "*/mocks/*", interfaceLibraryPaths,
   "*/shadcn/*"]

/-- The directories that matter most, in groups that are searched together. -/
def priorityDirectories : List (List String) :=
  [["pages"], ["components"], ["api", "routes"], ["hooks"], ["lib"], ["utils"]]

/-- The searches by which files are selected, in order. -/
def selection (root : String) (extensions : List String) : List FileSearch :=
  [{ roots := [root], shallow := true, extensions, excludedNames }] ++
  priorityDirectories.map (fun group =>
    { roots := group.map fun directory => root ++ "/" ++ directory
      extensions, excludedNames
      excludedPaths := if group.contains "components" then [interfaceLibraryPaths] else [] }) ++
  [{ roots := [root], extensions, excludedNames, excludedPaths }]

/-- The script that prints the selected paths; a path may be printed more than once. -/
def selectionScript (root : String) (extensions : List String := Path.sourceExtensions) : String :=
  "; ".intercalate ((selection root extensions).map FileSearch.command)

/-! ## Printing files -/

/-- The texts around the files of a stream. -/
structure Framing where
  /-- Stands before each file. -/
  opening : String := "___FILE_SEPARATOR___"
  /-- Stands behind each file. -/
  closing : String := "___END_FILE___"
  /-- Stands for the content of a file that cannot be read. -/
  unreadable : String := "ERROR_READING_FILE"
deriving Repr, DecidableEq, Inhabited

/-- The command that prints up to a number of files with their contents. -/
def batchCommand (root : String) (maxFiles : Int) (framing : Framing) : String :=
  inShell ("(" ++ selectionScript root ++ ") | awk '!seen[$0]++' | head -n " ++ toString maxFiles ++
    " | while IFS= read -r file; do echo " ++ quote framing.opening ++ "; echo \"$file\"; " ++
    "cat \"$file\" 2>/dev/null || echo " ++ quote framing.unreadable ++ "; echo " ++
    quote framing.closing ++ "; done")

end ProjectCheck.Scan
