import ProjectCheck.Shell.Columns
import ProjectCheck.Shell.Comparison
import ProjectCheck.Shell.Conditions
import ProjectCheck.Shell.Digest
import ProjectCheck.Shell.Dump
import ProjectCheck.Shell.Editing
import ProjectCheck.Shell.Exchange
import ProjectCheck.Shell.Figures
import ProjectCheck.Shell.Identity
import ProjectCheck.Shell.Layout
import ProjectCheck.Shell.Listing
import ProjectCheck.Shell.Matching
import ProjectCheck.Shell.Measure
import ProjectCheck.Shell.Names
import ProjectCheck.Shell.Printing
import ProjectCheck.Shell.Record.Run
import ProjectCheck.Shell.Sequence
import ProjectCheck.Shell.Sorting

/-!
# Tools

The commands that a machine knows by their names and that need no shell to run.  Each stands as a
program in one directory; a command can be found only if that directory is one of those that the
variable for it lists.
-/

namespace ProjectCheck.Shell

/-- The status of a command that does not exist. -/
def unknownStatus : Nat :=
  127

/-- The status of a file that is no program. -/
def refusedStatus : Nat :=
  126

/-- The directory of the programs. -/
def toolDirectory : String :=
  "/usr/bin/"

/-- A tool that only has a status. -/
def answering (status : Nat) : Tool := fun _ m =>
  (status, m)

/-- A tool that prints one line whatever its arguments. -/
def repeating (line : String) : Tool := fun _ m =>
  (0, m.say (line ++ "\n"))

/-- A tool of the larger shell, in whichever shell it is called. -/
def inLargeDialect (tool : Tool) : Tool := fun args m =>
  let (status, after) := tool args { m with dialect := .large }
  (status, { after with dialect := m.dialect })

/-- Prints the directory at work. -/
def pwd : Tool := fun args m =>
  (0, m.say ((if args.head? == some "-P" then m.directory.text else m.here) ++ "\n"))

/-- The tools that need no shell. -/
def plainTools : List (String × Tool) :=
  [("[", testInBrackets), ("arch", saying "arch" "x86_64"), ("awk", awk), ("base64", base64),
   ("basename", basename), ("cat", cat), ("chmod", chmod), ("cksum", cksum), ("cmp", cmp),
   ("comm", comm), ("cp", cp), ("cut", cut), ("diff", diff), ("dirname", dirname),
   ("echo", inLargeDialect echo), ("egrep", fun args => grep ("-E" :: args)),
   ("expand", expandTabs), ("expr", expr), ("factor", factor), ("false", answering 1),
   ("fgrep", fun args => grep ("-F" :: args)), ("fold", fold), ("grep", grep), ("groups", groups),
   ("head", head), ("id", identity), ("ln", ln), ("logname", logname), ("ls", ls), ("mawk", awk),
   ("md5sum", md5sum), ("mkdir", mkdir), ("mktemp", mktemp), ("mv", mv), ("nl", nl), ("od", od),
   ("paste", paste), ("printenv", printenv), ("printf", printf),
   ("pwd", fun args => pwd (if args.contains "-L" then args else ["-P"])), ("readlink", readlink),
   ("realpath", realpath), ("rev", rev), ("rm", rm), ("rmdir", rmdir), ("sed", sed), ("seq", seq),
   ("sha1sum", sha1sum), ("sha256sum", sha256sum), ("sort", sort), ("split", split),
   ("stat", stat), ("sync", answering 0), ("tac", tac), ("tail", tail), ("tee", tee),
   ("test", test), ("touch", touch), ("tr", tr), ("true", answering 0), ("truncate", truncate),
   ("tty", tty), ("uname", uname), ("unexpand", gatherTabs), ("uniq", uniq), ("wc", wc),
   ("whoami", saying "whoami" userName)]

/-- The tools that run commands or take time. -/
def runningTools : List String :=
  ["bash", "dash", "env", "find", "nice", "nohup", "sh", "sleep", "stdbuf", "timeout", "which", "xargs", "yes"]

/-- Whether a name is that of a tool. -/
def isTool (name : String) : Bool :=
  (plainTools.lookup name).isSome || runningTools.contains name

/-- The tool that a path names. -/
def toolOfPath? (path : String) : Option String :=
  (["/bin/", toolDirectory].findSome? fun lead =>
    Text.afterPrefix? lead.toList path.toList).bind fun name =>
      if isTool (String.ofList name) then some (String.ofList name) else none

/-- The paths at which a command of a name may stand, for directories that are listed with colons between
them; an empty one is the directory at work. -/
def placesOf (directories name : String) : List String :=
  (Text.pieces ':' directories.toList).map fun directory =>
    if directory.isEmpty then name else String.ofList directory ++ "/" ++ name

/-- Whether a command stands at a path. -/
def Machine.hasCommand (m : Machine) (path : String) : Bool :=
  match m.reach? path with
  | some (.file _) => m.isProgram path
  | some _ => false
  | none => (toolOfPath? path).isSome

/-- What a shell says of a command that does not exist. -/
def unknownCommand (m : Machine) (name : String) : Machine :=
  m.complainAsShell (name ++ (match m.dialect with
    | .plain => ": not found"
    | .large => ": command not found"))

end ProjectCheck.Shell
