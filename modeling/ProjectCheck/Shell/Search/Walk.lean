import ProjectCheck.Shell.Glob
import ProjectCheck.Shell.Search.Query

/-!
# Searching

A search goes from its starts downwards, in the order of the entries, and asks its parts of each path that it
comes to.  Parts may change the disk, so what is in a directory is looked up when the search comes to it.
Commands are run by whoever searches.
-/

namespace ProjectCheck.Shell

open ProjectCheck.Disk ProjectCheck.Number ProjectCheck.Text

/-! ## Progress -/

/-- Paths that are gathered for one command. -/
structure GatheredPaths where
  number : Nat
  run : FoundRun
  /-- The directory in which the command is run, if it is that of the paths. -/
  directory : Option Location
  depth : Nat
  /-- The paths, in reverse order. -/
  paths : List String

/-- How far a search has come. -/
structure SearchProgress where
  status : Nat := 0
  /-- What is below the path at hand is not searched. -/
  prunes : Bool := false
  gathered : List GatheredPaths := []

/-- What is done in a search, which may be ended at once. -/
abbrev SearchAct :=
  ExceptT Unit (StateT SearchProgress Act)

/-- How a command ends that is run in a directory, or in that at work. -/
abbrev FoundRunner :=
  Option Location → List String → Act (Except Obstruction Nat)

namespace SearchAct

/-- Does something outside of the search. -/
def lift {α : Type} (act : Act α) : SearchAct α :=
  ExceptT.lift (StateT.lift act)

/-- The machine at hand. -/
def machine : SearchAct Machine :=
  lift get

/-- Changes the machine. -/
def change (f : Machine → Machine) : SearchAct Unit :=
  lift (modify f)

/-- Says what is wrong, which the status of the search tells. -/
def fail (what : String) : SearchAct Unit := do
  change (·.complain ("find: " ++ what))
  modify fun p => { p with status := 1 }

end SearchAct

open SearchAct

/-! ## Commands -/

/-- Runs a command, and says whether it has come to a good end; the status of the search tells it only if
that is asked for. -/
def runFound (runner : FoundRunner) (tells : Bool) (directory : Option Location) (words : List String) :
    SearchAct Bool := do
  let note : SearchAct Unit := if tells then modify fun p => { p with status := 1 } else pure ()
  match ← lift (runner directory words).settle with
  | .ok (.ok 0) => return true
  | .ok (.ok _) => note
  | .ok (.error why) =>
    change (·.complain ("find: " ++ quoted (words.headD "") ++ ": " ++ why.message))
    note
  | .error (.killed signal) =>
    change (·.complain ("find: " ++ quoted (words.headD "") ++ " terminated by signal " ++ toString signal))
    note
  | .error ending => lift (throw ending)
  return false

/-- Runs commands with the paths that have been gathered for them. -/
def runGathered (runner : FoundRunner) (isDue : GatheredPaths → Bool) : SearchAct Unit := do
  let all := (← get).gathered
  modify fun p => { p with gathered := all.filter fun g => !isDue g }
  (all.filter isDue).forM fun g => do
    let _ ← runFound runner true g.directory (g.run.words ++ g.paths.reverse)

/-- A line that someone answers. -/
def readAnswer : SearchAct String := do
  let m ← machine
  let line := (byteLines m.input).headD []
  change (·.skip 0 line.length)
  return stringOfBytes line

/-- Runs a command with a path, or keeps the path for a command that is run with many. -/
def useFound (runner : FoundRunner) (number : Nat) (run : FoundRun) (f : FoundPath) : SearchAct Bool := do
  let directory := if run.isInside then some (if f.location.isEmpty then [] else f.location.dropLast) else none
  let path := if run.isInside then (if f.name == "/" then "/" else "./" ++ f.name) else f.path
  if run.isTogether then
    modify fun p =>
      { p with
        gathered := match p.gathered.find? (·.number == number) with
          | some g => p.gathered.map fun other =>
              if other.number == number then { g with paths := path :: g.paths } else other
          | none => p.gathered ++ [{ number, run, directory, depth := f.depth, paths := [path] }] }
    return true
  else
    let words := run.words.map (replacedIn "\x7b\x7d" path)
    if run.isAsked then
      let m ← machine
      let asked := "< " ++ words.headD "" ++ " ... " ++ f.path ++ " > ? "
      lift (set (m.write 2 (bytesOf asked)))
      let answer ← readAnswer
      if !(answer.toList.head?.any fun c => c == 'y' || c == 'Y') then return false
    runFound runner false directory words

/-! ## Parts -/

/-- Removes what stands at a path, unless it is a directory that holds something. -/
def removeFound (f : FoundPath) : SearchAct Bool := do
  if f.path == "." then return true
  let m ← machine
  let refuse := fun (why : Obstruction) => do
    fail ("cannot delete " ++ quoted f.path ++ ": " ++ why.message)
    return false
  match m.disk.at? f.location with
  | none => refuse .missing
  | some node =>
    if node.isDirectory && !node.entries.isEmpty then refuse .notEmpty
    else
      change (·.remove f.location)
      return true

/-- Whether a pattern fits a text. -/
def fitsText (pattern : Pattern) (inAnyCase : Bool) (text : String) : Bool :=
  pattern.fits (if inAnyCase then text.toList.map Char.toLower else text.toList)

/-- Whether a part of a search holds of a path, with what it does. -/
def SearchPart.ask (runner : FoundRunner) (isInnerFirst : Bool) (f : FoundPath) : SearchPart → SearchAct Bool
  | constant holds => return holds
  | name pattern inAnyCase => return fitsText pattern inAnyCase f.name
  | path pattern inAnyCase => return fitsText pattern inAnyCase f.path
  | target pattern inAnyCase => return f.node.target?.any (fitsText pattern inAnyCase)
  | fits expression ignoresCase =>
    let subject : Expression.Subject := { chars := f.path.toList.toArray, ignoresCase }
    return (expression.ends subject { place := 0 }).any (·.place == subject.chars.size)
  | kind letters isFollowed => do
    let m ← machine
    let node := if isFollowed && f.node.target?.isSome then (m.reach? f.path).getD f.node else f.node
    return letters.contains (FoundPath.kindLetter node)
  | isEmpty => return f.node.content?.any List.isEmpty || (f.node.isDirectory && f.node.entries.isEmpty)
  | size relation figure unit => return relation.holds ((f.listed.size + unit - 1) / unit) figure
  | linkCount relation figure => return relation.holds f.listed.linkCount figure
  | mode relation asked =>
    return match relation with
      | .exactly => f.mode == asked
      | .withAll => f.mode &&& asked == asked
      | .withAny => asked == 0 || f.mode &&& asked != 0
  | isProgram => return f.node.isDirectory || f.mode.isProgram
  | isAt location => return location == some f.location
  | prune => do
    if !isInnerFirst then modify fun p => { p with prunes := true }
    return true
  | quit => throw ()
  | delete => removeFound f
  | print ending => do
    change (·.say (f.path ++ ending))
    return true
  | format parts => do
    change fun m => m.print (FormatPart.shownIn m f parts)
    return true
  | run number command => useFound runner number command f

/-- Whether a search holds of a path, with what its parts do. -/
def SearchTree.ask (runner : FoundRunner) (isInnerFirst : Bool) (f : FoundPath) : SearchTree → SearchAct Bool
  | part p => p.ask runner isInnerFirst f
  | negate inner => do return !(← inner.ask runner isInnerFirst f)
  | both a b => do
    if ← a.ask runner isInnerFirst f then b.ask runner isInnerFirst f else return false
  | either a b => do
    if ← a.ask runner isInnerFirst f then return true else b.ask runner isInnerFirst f
  | sequence a b => do
    let _ ← a.ask runner isInnerFirst f
    b.ask runner isInnerFirst f

/-! ## Walking -/

/-- How deep a search goes. -/
def searchDepthLimit : Nat :=
  2000

/-- What a search takes to stand at a location: what a link leads to, if links are followed and it leads
anywhere. -/
def nodeSearched (m : Machine) (isFollowed : Bool) (location : Location) : Except Obstruction (Location × Node) :=
  match m.disk.at? location with
  | none => .error .missing
  | some node =>
    if !isFollowed || node.target?.isNone then .ok (location, node)
    else
      let path := Location.text location
      match m.reach path, canonical? m.disk [] path with
      | .ok target, some there => .ok (there, target)
      | .error .endlessLinks, _ => .error .endlessLinks
      | _, _ => .ok (location, node)

namespace Search

/-- Asks the search of a path, unless the path is not deep enough. -/
def ask (s : Search) (runner : FoundRunner) (f : FoundPath) : SearchAct Unit := do
  runGathered runner fun g => g.run.isInside &&
    !(g.directory == some f.location.dropLast && g.depth == f.depth)
  if s.minDepth ≤ f.depth then
    let _ ← s.tree.ask runner s.isInnerFirst f

/-- Searches a path and what is below it; `above` holds the directories on the way. -/
def visit (s : Search) (runner : FoundRunner) (fuel : Nat) (above : List (Location × String))
    (start path : String) (depth : Nat) (location : Location) : SearchAct Unit := do
  match fuel with
  | 0 => return
  | fuel + 1 =>
    let m ← machine
    let follows := s.links == .all || (s.links == .starts && depth == 0)
    match nodeSearched m follows location with
    | .error why => fail (quoted path ++ ": " ++ why.message)
    | .ok (there, node) =>
      let f : FoundPath :=
        { start, path, depth, location := there, node
          mode := m.modeAt there node }
      modify fun p => { p with prunes := false }
      match above.find? fun (other, _) => other == there && node.isDirectory with
      | some (_, name) =>
        fail ("File system loop detected; " ++ quoted path ++
          " is part of the same file system loop as " ++ quoted name ++ ".")
      | none =>
        if !s.isInnerFirst then s.ask runner f
        if node.isDirectory && !(← get).prunes && s.maxDepth.all (depth < ·) then
          let m ← machine
          match m.disk.at? there with
          | some (.directory entries) =>
            entries.forM fun (name, _) =>
              s.visit runner fuel ((there, path) :: above) start (pathBelow path name) (depth + 1)
                (there ++ [name])
          | _ => fail (quoted path ++ ": " ++ Obstruction.message .missing)
        if s.isInnerFirst then s.ask runner f

/-- Searches from a start. -/
def visitStart (s : Search) (runner : FoundRunner) (start : String) : SearchAct Unit := do
  let m ← machine
  match standing? m start, entryLocation? m start with
  | some _, some location =>
    s.visit runner searchDepthLimit [] start start 0
      (if isDirectoryPath start then (canonical? m.disk m.directory start).getD location else location)
  | _, _ => fail (quoted start ++ ": " ++ (absence m start).message)

/-- Searches from all starts. -/
def run (s : Search) (runner : FoundRunner) : Act Nat := do
  s.warnings.forM fun warning => modify (Machine.complain · warning)
  let walk : SearchAct Unit := s.starts.forM (s.visitStart runner)
  let (_, progress) ← walk.run.run {}
  let finish : SearchAct Unit := runGathered runner fun _ => true
  let (_, progress) ← finish.run.run progress
  return progress.status

end Search

/-- Searches for files. -/
def find (runner : FoundRunner) (args : List String) : Act Nat := do
  let m ← get
  match Search.read m args with
  | .ok search => search.run runner
  | .error fault =>
    modify (·.complain ("find: " ++ fault.message))
    return 1

end ProjectCheck.Shell
