import ProjectCheck.Analysis.Project
import ProjectCheck.CommandLine.Request
import ProjectCheck.Sandbox.LocalClient
import ProjectCheck.Value.JsonWriter

/-!
# Runs of the program

A run answers the request of a command line: it loads the settings, reads the files that are named,
analyses them and puts out the report.  A run that finds something blocking fails, and so does one
that ends without an answer; an answer that is only about the program never fails.

Files go by their paths from the root directory, and where they do not lie in it, by the paths that
they were given by.  A project is analysed in a local sandbox, which is the project itself.
-/

namespace ProjectCheck.CommandLine

open ProjectCheck.Disk ProjectCheck.Sandbox ProjectCheck.Text

/-- How a run ends. -/
inductive Outcome where
  | said (text : String)
  | reported (report : Report) (asJson : Bool) (text : String)
  | failed (why : Failure)
deriving BEq

namespace Failure

/-- What a fault of use or of the settings says. -/
def message? : Failure → Option String
  | usage fault => fault.message?
  | settings (.fault fault) => some fault.message
  | _ => none

/-- What is written about a failure. -/
def text (why : Failure) : String :=
  match why.message?, why with
  | some message, _ => "Error: " ++ message ++ "\n"
  | none, usage _ => programHelp
  | none, settings _ => "The settings cannot be used.\n"
  | none, interrupted _ => "The analysis was broken off.\n"
  | none, unusablePath => "A path holds a character that no path can hold.\n"
  | none, undrawn _ => "The report cannot be shown.\n"

/-- The exit code of a failure. -/
def exitCode : Failure → Nat
  | usage _ => 2
  | _ => 1

end Failure

namespace Outcome

/-- What a run prints. -/
def output : Outcome → String
  | said text => text
  | reported _ _ text => text
  | failed _ => ""

/-- What a run prints about its failure. -/
def errors : Outcome → String
  | failed why => why.text
  | _ => ""

/-- The exit code of a run. -/
def exitCode : Outcome → Nat
  | said _ => 0
  | reported report _ _ => if report.isBlocking then 1 else 0
  | failed why => why.exitCode

end Outcome

/-! ## Settings and files -/

/-- A settings file. -/
def Surroundings.settingsFile (s : Surroundings) (path : String) : Settings.SettingsFile :=
  { path := String.ofList (Path.tidy path.toList)
    content :=
      match reach? s.disk s.directory path with
      | none => .missing
      | some node =>
        match node.content? with
        | none => .directory
        | some content =>
          match exactTextOfBytes? content with
          | some text => .text (String.ofList (unifyLineEnds text.toList))
          | none => .undecodable }

/-- Loads the settings, perhaps with a file named for this run. -/
def Surroundings.loadSettings (s : Surroundings) (named : Option String) :
    Except Failure Settings :=
  let layers : Settings.Layers :=
    { shared := s.settingsFile s.sharedSettings
      named := named.map s.settingsFile
      environment := s.environment }
  match layers.load s.home with
  | .ok settings => .ok settings
  | .error why => .error (.settings why)

/-- The location of a path. -/
def Surroundings.locationOf (s : Surroundings) (path : String) : Location :=
  (canonical? s.disk s.directory path).getD s.directory

/-- The path that a file goes by in a report. -/
def Surroundings.shownPath (s : Surroundings) (root : Location) (path : String) : String :=
  match root.below? (s.locationOf path) with
  | some names => "/".intercalate names
  | none => String.ofList (Path.tidy path.toList)

/-- The files at some paths; of two that go by one path the later one counts. -/
def Surroundings.readFiles (s : Surroundings) (root : Location) (paths : List String) :
    List Analysis.MemoryFile :=
  let files := paths.filterMap fun path =>
    ((reach? s.disk s.directory path).bind Node.content?).map fun content =>
      (s.shownPath root path, fileText content)
  (Table.ofPairs files).map fun (path, text) => { path, text := some text }

/-! ## Runs -/

/-- The report of an analysis that starts afresh. -/
def reportOf (a : Analyser) (work : Work Float Report) : Except Failure Report :=
  match (work.runIn (a.startSession 0.0)).1 with
  | .ok report => .ok report
  | .error why => .error (.interrupted why)

/-- A report in its written form. -/
def written (report : Report) (asJson : Bool) : Except Failure Outcome :=
  if asJson then
    .ok (.reported report asJson ((report.toValue none).jsonLines 0 ++ "\n"))
  else
    match report.text with
    | .ok text => .ok (.reported report asJson text)
    | .error why => .error (.undrawn why)

/-- Answers a request. -/
def answer (s : Surroundings) : Request → Except Failure Outcome
  | .version => .ok (.said versionText)
  | .help none => .ok (.said programHelp)
  | .help (some command) => .ok (.said command.help)
  | .fragment files root manner => do
    let a : Analyser := { settings := ← s.loadSettings manner.settings }
    let sources := s.readFiles (s.locationOf root) files
    written (← reportOf a (Analysis.fragment a sources)) manner.asJson
  | .project root files manner => do
    let settings ← s.loadSettings manner.settings
    let host : LocalHost := { disk := s.disk, root := s.locationOf root }
    let a : Analyser := { client := some host.client, settings }
    let sources := s.readFiles host.root files
    written (← reportOf a (Analysis.project a sources ".")) manner.asJson

/-- Runs the program with the words of a command line. -/
def run (s : Surroundings) (words : List String) : Outcome :=
  match (requestOf s words).bind (answer s) with
  | .ok outcome => outcome
  | .error why => .failed why

end ProjectCheck.CommandLine
