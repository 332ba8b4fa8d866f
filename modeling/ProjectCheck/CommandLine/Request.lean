import ProjectCheck.CommandLine.Words
import ProjectCheck.Disk.Walk
import ProjectCheck.Report.Rendering
import ProjectCheck.Session.Basic
import ProjectCheck.Settings.Layers

/-!
# Help

What the program says about itself.
-/

namespace ProjectCheck.CommandLine

/-- The commands of the program. -/
inductive CommandName where
  | fragment
  | project
deriving Repr, DecidableEq

namespace CommandName

/-- All commands. -/
def all : List CommandName :=
  [fragment, project]

/-- The word for a command. -/
def word : CommandName → String
  | fragment => "fragment"
  | project => "project"

/-- The command of a word. -/
def ofWord? (word : String) : Option CommandName :=
  all.find? fun command => command.word == word

end CommandName

/-- The version of the program. -/
def versionText : String :=
  "sandscan, version 0.1.0\n"

/-- What the program does. -/
def programHelp : String :=
  "Usage: sandscan [OPTIONS] COMMAND [ARGS]...\n\n" ++
  "  SandScan - error detection for generated TypeScript projects.\n\n" ++
  "Options:\n" ++
  "  --version      Show the version and exit.\n" ++
  "  -v, --verbose  Enable debug logging\n" ++
  "  --help         Show this message and exit.\n\n" ++
  "Commands:\n" ++
  "  fragment  Check FILES for likely errors without running anything.\n" ++
  "  project   Run the compiler and import checks over the project at ROOT.\n"

/-- What a command does. -/
def CommandName.help : CommandName → String
  | fragment =>
    "Usage: sandscan fragment [OPTIONS] FILES...\n\n" ++
    "  Check FILES for likely errors without running anything.\n\n" ++
    "  Only heuristics apply: risky type escapes, known-bad imports, unexported entry\n" ++
    "  components and suspicious links.\n\n" ++
    "Options:\n" ++
    "  --root DIRECTORY  Directory that reported paths are relative to\n" ++
    "  --json            Output as JSON\n" ++
    "  --config FILE     YAML config file\n" ++
    "  --help            Show this message and exit.\n"
  | project =>
    "Usage: sandscan project [OPTIONS] ROOT\n\n" ++
    "  Run the compiler and import checks over the project at ROOT.\n\n" ++
    "  Commands run inside ROOT as if it were a sandbox. When they cannot run, the\n" ++
    "  --file sources are analyzed on their own instead.\n\n" ++
    "Options:\n" ++
    "  --file FILE    Recently changed file, used if project analysis is unavailable\n" ++
    "                 (repeatable)\n" ++
    "  --json         Output as JSON\n" ++
    "  --config FILE  YAML config file\n" ++
    "  --help         Show this message and exit.\n"

/-!
## Requests

What the words of a command line ask for.  The options before the command are those of the program,
and the words behind it belong to the command.  To ask for help or for the version is answered
before anything else is looked at.

The paths of a request are looked up on the disk.  Of several faults the one in the earliest option
counts; then come the arguments, and last the words that are left over.
-/

open ProjectCheck.Disk

/-- What a program finds where it is started. -/
structure Surroundings where
  disk : Node
  directory : Location
  environment : Settings.Environment := []
  home : String
  /-- Where the settings for all projects are. -/
  sharedSettings : String
deriving Repr

/-- Why a program ends without an answer. -/
inductive Failure where
  | usage (fault : UsageFault)
  | settings (why : Settings.LoadFailure)
  | interrupted (why : Interruption)
  /-- A path holds a character that no path can hold. -/
  | unusablePath
  /-- The report cannot be drawn. -/
  | undrawn (why : DrawFault)
deriving Repr, BEq

/-- What the options of both commands say. -/
structure Manner where
  asJson : Bool
  settings : Option String
deriving Repr, DecidableEq

/-- What a command line asks for. -/
inductive Request where
  | version
  | help (command : Option CommandName)
  | fragment (files : List String) (root : String) (manner : Manner)
  | project (root : String) (files : List String) (manner : Manner)
deriving Repr, DecidableEq

/-! ## Options -/

/-- The option that asks for help. -/
def helpOption : OptionForm :=
  { name := "--help" }

/-- The options of the program. -/
def programOptions : List OptionForm :=
  [{ name := "--version" }, { name := "--verbose", letter := some 'v' }, helpOption]

/-- The options of a command. -/
def CommandName.options : CommandName → List OptionForm
  | fragment =>
    [{ name := "--root", value := .path .directory }, { name := "--json" },
     { name := "--config", value := .path .file }, helpOption]
  | project =>
    [{ name := "--file", value := .paths .file }, { name := "--json" },
     { name := "--config", value := .path .file }, helpOption]

/-- What the options of both commands say, as they were given. -/
def Given.manner (given : Given) : Manner :=
  { asJson := given.has "--json", settings := given.value? "--config" }

/-! ## Paths -/

/-- Refuses a path that does not lead to what a parameter is to name. -/
def checkPath (s : Surroundings) (parameter : String) (kind : PathKind) (path : String) :
    Except Failure Unit :=
  let refuse := fun fault => .error (.usage (.wrongPath parameter kind path fault))
  if path.toList.contains '\x00' then .error .unusablePath
  else
    match reach? s.disk s.directory path, kind with
    | none, _ => refuse .absent
    | some node, .file => if node.isDirectory then refuse .isDirectory else .ok ()
    | some node, .directory => if node.isDirectory then .ok () else refuse .isFile

/-- Refuses the paths that do not lead to what a parameter is to name. -/
def checkPaths (s : Surroundings) (parameter : String) (kind : PathKind) :
    List String → Except Failure Unit
  | [] => .ok ()
  | path :: rest => do
    checkPath s parameter kind path
    checkPaths s parameter kind rest

/-- Refuses the paths given with an option that do not lead to what it is to name. -/
def checkOption (s : Surroundings) (given : Given) (form : OptionForm) : Except Failure Unit :=
  match form.value with
  | .nothing => .ok ()
  | .path kind => checkPaths s form.name kind (given.value? form.name).toList
  | .paths kind => checkPaths s form.name kind (given.values form.name)

/-- Checks the options that were given, by the order in which they first appear. -/
def checkOptions (s : Surroundings) (forms : List OptionForm) (given : Given) :
    List String → Except Failure Unit
  | [] => .ok ()
  | name :: rest => do
    match forms.find? fun form => form.name == name with
    | some form => checkOption s given form
    | none => .ok ()
    checkOptions s forms given rest

/-! ## Commands -/

/-- The request that the words behind `fragment` make up. -/
def fragmentRequest (s : Surroundings) (given : Given) : Except Failure Request := do
  if given.arguments.isEmpty then throw (.usage (.argumentMissing "FILES..."))
  checkPaths s "FILES..." .file given.arguments
  return .fragment given.arguments ((given.value? "--root").getD ".") given.manner

/-- The request that the words behind `project` make up. -/
def projectRequest (s : Surroundings) (given : Given) : Except Failure Request := do
  match given.arguments with
  | [] => throw (.usage (.argumentMissing "ROOT"))
  | root :: others =>
    checkPath s "ROOT" .directory root
    match others with
    | [] => return .project root (given.values "--file") given.manner
    | first :: more => throw (.usage (.argumentsLeft first more))

/-- Options and arguments, with their faults as those of the program. -/
def givenBy (forms : List OptionForm) (mixed : Bool) (words : List String) :
    Except Failure Given :=
  match readWords forms mixed words with
  | .ok given => .ok given
  | .error fault => .error (.usage fault)

/-- The request that the words behind a command make up. -/
def commandRequest (s : Surroundings) (command : CommandName) (words : List String) :
    Except Failure Request := do
  let given ← givenBy command.options true words
  if given.has helpOption.name then return .help (some command)
  checkOptions s command.options given (given.options.map (·.1)).eraseDups
  match command with
  | .fragment => fragmentRequest s given
  | .project => projectRequest s given

/-- What the options of the program ask for, whatever else is asked. -/
def Given.first? (given : Given) : Option Request :=
  given.options.findSome? fun option =>
    if option.1 == "--version" then some .version
    else if option.1 == helpOption.name then some (.help none)
    else none

/-- What is said when a command is not known.  A word that looks like an option is read as one. -/
def unknownCommand (name : String) (rest : List String) : Except Failure Request := do
  let similar := Text.mostSimilar name (CommandName.all.map (·.word))
  let given ← if isOption name then givenBy programOptions false (name :: rest) else pure {}
  match given.first? with
  | some request => return request
  | none => throw (.usage (.noSuchCommand name similar))

/-- The request that words make up. -/
def requestOf (s : Surroundings) (words : List String) : Except Failure Request := do
  if words.isEmpty then throw (.usage .nothingAsked)
  let given ← givenBy programOptions false words
  match given.first?, given.arguments with
  | some request, _ => return request
  | none, [] => throw (.usage .commandMissing)
  | none, name :: rest =>
    match CommandName.ofWord? name with
    | some command => commandRequest s command rest
    | none => unknownCommand name rest

end ProjectCheck.CommandLine
