import ProjectCheck.Shell.Reading

/-!
# Tools that change files

Tools that make, copy, move and remove what stands on the disk.
-/

namespace ProjectCheck.Shell

open ProjectCheck.Disk ProjectCheck.Text

/-- Why nothing can be put at a location: what should be its directory is none, or its name is too long. -/
def obstacle? (m : Machine) (location : Location) : Option Obstruction :=
  match m.disk.at? location.dropLast with
  | some (.directory _) =>
    if location.any (nameLimit < ·.utf8ByteSize) then some .longName else none
  | some _ => some .notDirectory
  | none =>
    if (List.range location.length).any fun n =>
        (m.disk.at? (location.take n)).any (!Node.isDirectory ·) then some .notDirectory
    else some .missing

/-- A machine that has said what it does, if it is asked to. -/
def Machine.tell (m : Machine) (isAsked : Bool) (what : String) : Machine :=
  if isAsked then m.say (what ++ "\n") else m

/-- A name behind the path of a directory. -/
def joinedPath (directory name : String) : String :=
  if directory.toList.getLast? == some '/' then directory ++ name else directory ++ "/" ++ name

/-- Whether a path is written as that of a directory. -/
def isDirectoryPath (path : String) : Bool :=
  path.toList.getLast? == some '/'

/-- The last name of a path. -/
def lastName (path : String) : String :=
  String.ofList (Path.lastSegment (dropEndWhile (· == '/') path.toList))

/-- The last name of a path, which may be one of dots. -/
def finalName (path : String) : String :=
  String.ofList (((pieces '/' (dropEndWhile (· == '/') path.toList)).getLast?).getD [])

/-- The paths of the directories on the way that a path describes, from the outside to the inside. -/
def pathsAbove (path : String) : List String :=
  let names := (Location.namesOf path).filter (!·.isEmpty)
  let lead := if Path.isAbsolute path.toList then "/" else ""
  (List.range (names.length - 1)).map fun n => lead ++ "/".intercalate (names.take (n + 1))

/-! ## Directories -/

/-- Makes a directory in a directory that is there. -/
def mkdirHere (o : Options) (path : String) (m : Machine) : Nat × Machine :=
  let refuse := fun (why : Obstruction) =>
    (1, m.complain ("mkdir: cannot create directory " ++ quoted path ++ ": " ++ why.message))
  match canonical? m.disk m.directory path with
  | none => refuse .endlessLinks
  | some location =>
    if path.isEmpty then refuse .missing
    else
      match m.disk.at? location, obstacle? m location with
      | some node, _ => if o.has 'p' && node.isDirectory then (0, m) else refuse .isThere
      | none, none =>
        (0, (m.place location .empty).tell (o.has 'v')
          ("mkdir: created directory " ++ cited path))
      | none, some what => refuse what

/-- Makes a directory, with those on the way to it if that is asked for. -/
def mkdirOne (o : Options) (path : String) (m : Machine) : Nat × Machine :=
  let refuse := fun (path : String) (m : Machine) =>
    (1, m.complain ("mkdir: cannot create directory " ++ quoted path ++ ": " ++
      Obstruction.message .notDirectory))
  let (status, m) := (if o.has 'p' then pathsAbove path else []).foldl
    (fun ((status : Nat), (m : Machine)) above =>
      if status != 0 then (status, m)
      else
        match m.reach? above with
        | some (.directory _) => (0, m)
        | some _ => refuse above m
        | none => mkdirHere o above m) (0, m)
  if status != 0 then (status, m) else mkdirHere o path m

/-- Makes directories. -/
def mkdir : Tool :=
  withOptions { tool := "mkdir", plain := ['p', 'v', 'Z'], valued := ['m'], long := [("parents", 'p'),
    ("verbose", 'v'), ("mode", 'm')] } fun o m =>
  if o.operands.isEmpty then complainOfOperands "mkdir" "operand" m
  else if (o.value? 'm').any fun text => (Mode.after? m.mask true text 0).isNone then
    (1, m.complain ("mkdir: invalid mode " ++ quoted ((o.value? 'm').getD "")))
  else forEach (mkdirOne o) o.operands m

/-- Removes an empty directory. -/
def rmdirHere (o : Options) (lead path : String) (m : Machine) : Nat × Machine :=
  let m := m.tell (o.has 'v') ("rmdir: removing directory, " ++ cited path)
  let refuse := fun (why : Obstruction) =>
    (1, m.complain ("rmdir: failed to remove " ++ lead ++ cited path ++ ": " ++ why.message))
  if path.isEmpty then refuse .missing
  else if finalName path == "." then refuse .badName
  else
    match entryLocation? m path with
    | none => refuse .missing
    | some location =>
      match m.disk.at? location with
      | none => refuse (absence m path)
      | some (.directory []) => (0, m.remove location)
      | some (.directory _) => refuse .notEmpty
      | some _ => refuse .notDirectory

/-- Removes an empty directory, and those on the way to it if that is asked for. -/
def rmdirOne (o : Options) (path : String) (m : Machine) : Nat × Machine :=
  let above := if o.has 'p' then (pathsAbove path).reverse else []
  above.foldl (fun ((status : Nat), (m : Machine)) path =>
    if status != 0 then (status, m) else rmdirHere o "directory " path m) (rmdirHere o "" path m)

/-- Removes empty directories. -/
def rmdir : Tool :=
  withOptions { tool := "rmdir", plain := ['p', 'v'], long := [("parents", 'p'), ("verbose", 'v')] }
    fun o m =>
  if o.operands.isEmpty then complainOfOperands "rmdir" "operand" m
  else forEach (rmdirOne o) o.operands m

/-! ## Files -/

/-- Makes an empty file unless something is there. -/
def touchOne (isShy : Bool) (path : String) (m : Machine) : Nat × Machine :=
  let refuse := fun (doing : String) (why : Obstruction) =>
    (1, m.complain ("touch: " ++ doing ++ " " ++ cited path ++ ": " ++ why.message))
  match canonical? m.disk m.directory path with
  | none => refuse "cannot touch" .endlessLinks
  | some location =>
    let there := m.disk.at? location
    if path.isEmpty then refuse "cannot touch" .missing
    else if isDirectoryPath path && !there.any Node.isDirectory then
      refuse "setting times of" (if there.isSome then .notDirectory else .missing)
    else if there.isSome || isShy then (0, m)
    else
      match obstacle? m location with
      | some why => refuse "cannot touch" why
      | none => (0, m.place location (.file []))

/-- Makes empty files where nothing is. -/
def touch : Tool :=
  withOptions
    { tool := "touch", plain := "acfhm".toList, valued := ['d', 't', 'r']
      long := [("no-create", 'c'), ("date", 'd'), ("reference", 'r'), ("no-dereference", 'h')] }
    fun o m =>
  if o.operands.isEmpty then complainOfOperands "touch" "file operand" m
  else forEach (touchOne (o.has 'c')) o.operands m

mutual

/-- The lines that tell how something is removed with all that is in it. -/
def removals (path : String) : Node → List String
  | .directory entries => removalsIn path entries ++ ["removed directory " ++ cited path]
  | _ => ["removed " ++ cited path]

/-- The lines that tell how the entries of a directory are removed. -/
def removalsIn (path : String) : List (String × Node) → List String
  | [] => []
  | (name, node) :: rest => removals (joinedPath path name) node ++ removalsIn path rest

end

/-- Removes a file, or a directory with all that is in it. -/
def rmOne (o : Options) (path : String) (m : Machine) : Nat × Machine :=
  let refuse := fun (why : Obstruction) =>
    (1, m.complain ("rm: cannot remove " ++ cited path ++ ": " ++ why.message))
  let missing := if o.has 'f' then (0, m) else refuse (absence m path)
  let isDeep := o.has 'r' || o.has 'R'
  let name := finalName path
  if isDeep && (name == "." || name == "..") then
    (1, m.complain ("rm: refusing to remove '.' or '..' directory: skipping " ++ cited path))
  else if path.isEmpty then missing
  else
    match entryLocation? m path with
    | none => missing
    | some [] =>
      if isDeep then
        (1, m.complain ("rm: it is dangerous to operate recursively on " ++ cited path ++
          "\nrm: use --no-preserve-root to override this failsafe"))
      else refuse .isDirectory
    | some location =>
      match m.disk.at? location with
      | none => missing
      | some node =>
        let isLinkedDirectory := !node.isDirectory && (m.reach? path).any Node.isDirectory
        if isDirectoryPath path && !node.isDirectory then
          refuse (if isLinkedDirectory && !isDeep then .isDirectory else .notDirectory)
        else if node.isDirectory && !isDeep && !o.has 'd' then refuse .isDirectory
        else if node.isDirectory && !isDeep && !node.entries.isEmpty then refuse .notEmpty
        else
          let m := if o.has 'v' then m.say (lined (removals path node)) else m
          (0, m.remove location)

/-- Removes files. -/
def rm : Tool :=
  withOptions { tool := "rm", plain := "dfiIrRv".toList, long := [("recursive", 'r'), ("force", 'f'),
    ("dir", 'd'), ("verbose", 'v'), ("interactive", 'i')] } fun o m =>
  if o.operands.isEmpty && !o.has 'f' then complainOfOperands "rm" "operand" m
  else forEach (rmOne o) o.operands m

/-- The path under which a source comes to stand that is put at a target: in the directory there,
unless the target is to be taken as it is, or else there itself. -/
def pathAtTarget (o : Options) (m : Machine) (source target : String) : String :=
  if !o.has 'T' && !target.isEmpty && (m.reach? target).any Node.isDirectory then
    joinedPath target (lastName source)
  else target

/-- Puts a source at a target in the manner of a tool; `move` gives the machine after it. -/
def transferOne (tool : String) (o : Options) (target : String)
    (move : Location → Node → Location → Machine → Machine) (source : String) (m : Machine) :
    Nat × Machine :=
  let refuse := fun what => (1, m.complain (tool ++ ": " ++ what))
  let isCopy := tool == "cp"
  let isDeep := o.has 'r' || o.has 'R' || o.has 'a'
  let follows := (isCopy && !isDeep) || isDirectoryPath source
  let from? := if source.isEmpty then none
    else if follows then canonical? m.disk m.directory source else entryLocation? m source
  let onto := pathAtTarget o m source target
  let pair := cited source ++ " to " ++ cited onto
  match from?.bind fun l => (m.disk.at? l).map fun node => (l, node),
      (if isCopy then canonical? m.disk m.directory onto else entryLocation? m onto) with
  | none, _ =>
    refuse ("cannot stat " ++ cited source ++ ": " ++ (absence m source).message)
  | some _, none =>
    refuse ("cannot stat " ++ cited target ++ ": " ++ Obstruction.message .endlessLinks)
  | some (location, node), some there =>
    let old := m.disk.at? there
    let creating := "cannot create " ++ (if node.isDirectory then "directory " else "regular file ") ++
      cited onto ++ ": "
    let what := if isCopy then creating else "cannot move " ++ pair ++ ": "
    if isDirectoryPath source && !node.isDirectory then
      refuse ("cannot stat " ++ cited source ++ ": " ++ Obstruction.message .notDirectory)
    else if node.isDirectory && isCopy && !isDeep then
      refuse ("-r not specified; omitting directory " ++ cited source)
    else if onto.isEmpty then refuse (what ++ Obstruction.message .missing)
    else if location == there then
      refuse (cited source ++ " and " ++ cited onto ++ " are the same file")
    else if there.isWithin location then
      refuse (if isCopy then
          "cannot copy a directory, " ++ cited source ++ ", into itself, " ++ cited onto
        else "cannot move " ++ cited source ++ " to a subdirectory of itself, " ++
          cited onto)
    else if o.has 'n' && old.isSome then (0, m)
    else if old.any Node.isDirectory && !node.isDirectory then
      refuse ("cannot overwrite directory " ++ cited onto ++ " with non-directory")
    else if node.isDirectory && old.any (!·.isDirectory) then
      refuse ("cannot overwrite non-directory " ++ cited onto ++ " with directory " ++
        cited source)
    else if !isCopy && old.any fun node => !node.entries.isEmpty then
      refuse (what ++ Obstruction.message .notEmpty)
    else
      match obstacle? m there with
      | some obstacle =>
        refuse ((if obstacle = .missing then what else "cannot stat " ++ cited onto ++ ": ") ++
          obstacle.message)
      | none =>
        if isDirectoryPath onto && !node.isDirectory then refuse (what ++ Obstruction.message .notDirectory)
        else
          (0, (move location node there m).tell (o.has 'v')
            ((if isCopy then "" else "renamed ") ++ cited source ++ " -> " ++ cited onto))

/-- Why a path is not that of a directory. -/
def notDirectoryThere (m : Machine) (path : String) : Obstruction :=
  if (m.reach? path).isSome then .notDirectory else absence m path

/-- Puts sources at a target in the manner of a tool. -/
def transfer (tool : String) (move : Location → Node → Location → Machine → Machine) : Tool :=
  withOptions
    { tool, plain := (if tool == "cp" then "abdfHilLnPprRsTuvxZ" else "bfinTuvZ").toList
      valued := ['t', 'S'], long := [("recursive", 'r'), ("force", 'f'), ("archive", 'a'),
        ("no-clobber", 'n'), ("verbose", 'v'), ("target-directory", 't'),
        ("no-target-directory", 'T'), ("update", 'u'), ("interactive", 'i'), ("backup", 'b')]
      free := ['u', 'b'] }
    fun o m =>
      let all := match o.value? 't' with
        | some target => if o.operands.isEmpty then [] else o.operands ++ [target]
        | none => o.operands
      match all.reverse with
      | [] => complainOfOperands tool "file operand" m
      | [only] =>
        (1, m.complain (tool ++ ": missing destination file operand after " ++ cited only ++
          "\nTry '" ++ tool ++ " --help' for more information."))
      | target :: sources =>
        let needsDirectory := 1 < sources.length || (o.value? 't').isSome
        if needsDirectory && !(m.reach? target).any Node.isDirectory then
          (1, m.complain (tool ++ ": target " ++ cited target ++ ": " ++
            (notDirectoryThere m target).message))
        else forEach (transferOne tool o target move) sources.reverse m

/-- The entries of a directory laid over those of another. -/
def mergedNode (new old : Node) : Node :=
  match new, old with
  | .directory entries, .directory others =>
    .directory (entries.foldl (fun all (name, node) => Table.put name node all) others)
  | _, _ => new

/-- Copies files. -/
def cp : Tool :=
  transfer "cp" fun location node there m =>
    let isNew := (m.disk.at? there).isNone
    let modes := m.modes.filterMap fun (l, mode) =>
      (location.below? l).map fun rest => (there ++ rest, mode)
    let m := m.place there (mergedNode node ((m.disk.at? there).getD (.file [])))
    if isNew then { m with modes := modes ++ m.modes } else m

/-- Moves files. -/
def mv : Tool :=
  transfer "mv" fun location node there m =>
    let modes := m.modes.filterMap fun (l, mode) =>
      (location.below? l).map fun rest => (there ++ rest, mode)
    let m := (m.remove location).remove there
    { m with disk := Node.put node there m.disk, modes := modes ++ m.modes }

/-- Makes a link to a path, or a copy where no link is asked for. -/
def lnOne (o : Options) (target path : String) (m : Machine) : Nat × Machine :=
  let isSymbolic := o.has 's'
  let refuse := fun what => (1, m.complain ("ln: " ++ what))
  let kind := if isSymbolic then "symbolic" else "hard"
  let isOpened := match standing? m path with
    | some (.link _) => !o.has 'n'
    | _ => true
  let onto := if isOpened then pathAtTarget o m target path else path
  let source := m.reach? target
  match entryLocation? m onto with
  | none => refuse ("failed to access " ++ cited onto ++ ": " ++ Obstruction.message .endlessLinks)
  | some location =>
    let failed := "failed to create " ++ kind ++ " link " ++ cited onto
    if !isSymbolic && source.isNone then
      refuse ("failed to access " ++ cited target ++ ": " ++ (absence m target).message)
    else if !isSymbolic && source.any Node.isDirectory then
      refuse (target ++ ": hard link not allowed for directory")
    else
      match m.disk.at? location, obstacle? m location with
      | some old, _ =>
        if !o.has 'f' then refuse (failed ++ ": " ++ Obstruction.message .isThere)
        else if canonical? m.disk m.directory target == some location then
          refuse (cited target ++ " and " ++ cited onto ++ " are the same file")
        else if old.isDirectory then refuse (cited onto ++ ": cannot overwrite directory")
        else place location onto
      | none, some why =>
        refuse (failed ++ (if isSymbolic then "" else " => " ++ cited target) ++ ": " ++ why.message)
      | none, none =>
        if isDirectoryPath onto then
          refuse (failed ++ (if isSymbolic then "" else " => " ++ cited target) ++ ": " ++
            Obstruction.message .missing)
        else place location onto
where
  /-- Puts the link, or the copy, at a location. -/
  place (location : Location) (onto : String) : Nat × Machine :=
    let node := if o.has 's' then .link target else (m.reach? target).getD (.file [])
    (0, (m.place location node).tell (o.has 'v')
      (cited onto ++ (if o.has 's' then " -> " else " => ") ++ cited target))

/-- Makes links. -/
def ln : Tool :=
  withOptions
    { tool := "ln", plain := "bdfFiLnPrsTvZ".toList, valued := ['t', 'S']
      long := [("symbolic", 's'), ("force", 'f'), ("no-dereference", 'n'), ("verbose", 'v'),
      ("relative", 'r'), ("no-target-directory", 'T'), ("target-directory", 't')] } fun o m =>
  let all := match o.value? 't' with
    | some directory => if o.operands.isEmpty then [] else o.operands ++ [directory]
    | none => o.operands
  match all.reverse with
  | [] => complainOfOperands "ln" "file operand" m
  | [target] => lnOne o target ("./" ++ lastName target) m
  | [path, target] => lnOne o target path m
  | directory :: targets =>
    if !(m.reach? directory).any Node.isDirectory then
      (1, m.complain ("ln: target " ++ cited directory ++ ": " ++
        (notDirectoryThere m directory).message))
    else forEach (fun target => lnOne o target directory) targets.reverse m

mutual

/-- The locations of a tree and of all that is in it. -/
def locationsIn (location : Location) : Node → List Location
  | .directory entries => location :: locationsOfEntries location entries
  | _ => [location]

/-- The locations of entries and of all that is in them. -/
def locationsOfEntries (location : Location) : List (String × Node) → List Location
  | [] => []
  | (name, node) :: rest =>
    locationsIn (location ++ [name]) node ++ locationsOfEntries location rest

end

/-- Changes the permissions of what a path names, and of all in it if that is asked for. -/
def chmodOne (isDeep : Bool) (mode path : String) (m : Machine) : Nat × Machine :=
  match (canonical? m.disk m.directory path).bind fun l => (m.disk.at? l).map (l, ·) with
  | none => (1, m.complain ("chmod: cannot access " ++ cited path ++ ": " ++ (absence m path).message))
  | some (location, node) =>
    (0, (if isDeep then locationsIn location node else [location]).foldl (fun (m : Machine) location =>
      match m.disk.at? location with
      | none => m
      | some node =>
        let old := m.modeAt location node
        m.setMode location ((Mode.after? m.mask node.isDirectory mode old).getD old)) m)

/-- Changes the permissions of files. -/
def chmod : Tool := fun args m =>
  match args.filter fun arg => !(["-R", "-v", "-f", "-c", "--"].contains arg) with
  | [] => complainOfOperands "chmod" "operand" m
  | [mode] => complainOfOperands "chmod" ("operand after " ++ quoted mode) m
  | mode :: paths =>
    if (Mode.after? 0 false mode 0).isNone then
      refuseWith "chmod" ("invalid mode: " ++ quoted mode) m
    else forEach (chmodOne (args.contains "-R") mode) paths m

/-- Prints the input and writes it to files too. -/
def tee : Tool :=
  withOptions { tool := "tee", plain := ['a', 'i', 'p'], long := [("append", 'a'),
    ("ignore-interrupts", 'i')] } fun o m =>
  let bytes := m.input
  forEach (fun path m =>
    match canonical? m.disk m.directory path with
    | none => (1, complainOf "tee" path .endlessLinks m)
    | some location =>
      if path == nullDevice then (0, m)
      else if (m.disk.at? location).any Node.isDirectory then (1, complainOf "tee" path .isDirectory m)
      else
        match obstacle? m location with
        | some why => (1, complainOf "tee" path why m)
        | none =>
          let kept := if o.has 'a' then (m.contentAt? location).getD [] else []
          (0, m.place location (.file (kept ++ bytes)))) o.operands (m.withoutInput.print bytes)

end ProjectCheck.Shell
