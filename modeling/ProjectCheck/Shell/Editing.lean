import ProjectCheck.Shell.Changes
import ProjectCheck.Shell.Edit.Run

/-!
# The tool for editing

The tool that carries out a script for the lines of files, or of the input where none is named.  It
prints what becomes of them, or with the option for it puts that in the places of the files, of which
it may keep copies.
-/

namespace ProjectCheck.Shell

open ProjectCheck.Disk ProjectCheck.Text Edit

/-- The options of the tool. -/
def editingForm : OptionForm :=
  { tool := "sed", plain := "bnErusz".toList, valued := ['e', 'f', 'l'], attached := ['i']
    long := [("binary", 'b'), ("regexp-extended", 'E'), ("debug", 'D'), ("in-place", 'i'),
      ("expression", 'e'), ("file", 'f'), ("line-length", 'l'), ("null-data", 'z'),
      ("zero-terminated", 'z'), ("quiet", 'n'), ("posix", 'P'), ("silent", 'n'), ("sandbox", 'S'),
      ("separate", 's'), ("unbuffered", 'u'), ("follow-symlinks", 'L')]
    usage := "Usage: sed [OPTION]... \x7bscript-only-if-no-other-script\x7d [input-file]..." }

/-- The lines of a text, each of which a mark ends but perhaps the last one. -/
def editedLines (mark : Char) (text : List Char) : List Line :=
  let parts := pieces mark text
  let whole := parts.dropLast.map fun part => (⟨part, true⟩ : Line)
  match parts.getLast? with
  | some (c :: part) => whole ++ [⟨c :: part, false⟩]
  | _ => whole

/-- The pieces of the script that options name, or the missing file of one. -/
def scriptPieces (m : Machine) : (number : Nat) → List (Char × String) →
    Except String (List (Source × List Char))
  | _, [] => .ok []
  | number, (letter, value) :: rest => do
    if letter == 'e' then
      return (.expression number, value.toList) :: (← scriptPieces m (number + 1) rest)
    else if letter == 'f' then
      match bytesNamed m value with
      | .error why => .error ("couldn't open file " ++ value ++ ": " ++ why.message)
      | .ok bytes => return (.file value, decodeUtf8 bytes) :: (← scriptPieces m number rest)
    else scriptPieces m number rest

/-- The files that a script reads, or those that it writes. -/
def Edit.Script.files (s : Edit.Script) (isWritten : Bool) : List String :=
  (s.commands.toList.filterMap fun c => match c.action with
    | .file sign path => if (sign == 'w' || sign == 'W') == isWritten then some path else none
    | .replace r => if isWritten then r.file else none
    | _ => none).eraseDups

/-- The name of the copy of a file: a star in the ending stands for the name, and without one the
ending follows the name. -/
def copyName (ending path : String) : String :=
  let name := Path.lastSegment path.toList
  let directory := path.toList.take (path.length - name.length)
  let copy := if ending.toList.contains '*' then joinWith name (pieces '*' ending.toList)
    else name ++ ending.toList
  String.ofList (if copy.contains '/' then copy else directory ++ copy)

/-- Puts what a run has printed to files in their places. -/
def placeSinks (r : Run) (m : Machine) : Machine :=
  r.sinks.foldl (fun m (path, sink) =>
    let bytes := bytesOf (String.ofList sink.text)
    if path == mainSink || path == nullDevice then m
    else if path == "/dev/stderr" then m.write 2 bytes
    else
      match canonical? m.disk m.directory path with
      | some location => m.place location (.file bytes)
      | none => m) m

/-- A run without what it has printed, and that. -/
def takePrinted (r : Run) : List UInt8 × Run :=
  let sink := (Table.get? mainSink r.sinks).getD {}
  (bytesOf (String.ofList sink.text), { r with sinks := Table.erase mainSink r.sinks })

/-- The status of a run that is over, and what it says. -/
def endedRun (r : Run) (expressions : Nat) (m : Machine) : Option Nat × Machine :=
  match r.outcome with
  | none => (none, m)
  | some (.left status) => (some status, m)
  | some (.broken what) =>
    (some 1, m.complain ("sed: " ++ (Place.text ⟨.expression expressions, 0⟩) ++ ": " ++ what.message))

/-- What is said of a file that cannot be edited, and the status of that. -/
def refuseEdited (isInPlace : Bool) (name : String) (why : Obstruction) (m : Machine) : Nat × Machine :=
  if why ≠ .isDirectory then (2, m.complain ("sed: can't read " ++ name ++ ": " ++ why.message))
  else if isInPlace then (4, m.complain ("sed: couldn't edit " ++ name ++ ": not a regular file"))
  else (4, m.complain ("sed: read error on " ++ name ++ ": " ++ why.message))

/-- Edits files where they stand, one after the other. -/
def editInPlace (ending : String) (expressions : Nat) (r : Run) (m : Machine) :
    (status : Nat) → List String → Nat × Machine
  | status, [] => (status, placeSinks r m)
  | status, name :: rest =>
    match bytesNamed m name, canonical? m.disk m.directory name with
    | .ok bytes, some location =>
      let lines := (editedLines r.setting.mark (decodeUtf8 bytes)).map fun line => (name, line)
      let (text, r) := takePrinted (r.edit lines)
      let m := match ending.isEmpty, canonical? m.disk m.directory (copyName ending name) with
        | false, some copy => m.place copy (.file bytes)
        | _, _ => m
      match endedRun r expressions m with
      | (none, m) => editInPlace ending expressions r (m.place location (.file text)) status rest
      | (some 0, m) =>
        if r.left.isEmpty then
          editInPlace ending expressions { r with outcome := none }
            (m.place location (.file text)) status rest
        else (status, placeSinks r (m.place location (.file text)))
      | (some own, m) => (own, placeSinks r (m.place location (.file text)))
    | .error why, _ =>
      let (own, m) := refuseEdited true name why m
      if own = 4 then (4, placeSinks r m) else editInPlace ending expressions r m (max status own) rest
    | _, _ => editInPlace ending expressions r m 4 rest

/-- The groups of lines that things hold, and the status of reading them; nothing is read behind a
thing that can be named but not read. -/
def editedGroups (mark : Char) (m : Machine) : List String →
    List (List (String × Line)) × Nat × Machine
  | [] => ([], 0, m)
  | name :: rest =>
    match bytesNamed m name with
    | .ok bytes =>
      let (groups, status, m) := editedGroups mark (afterReading m name) rest
      (((editedLines mark (decodeUtf8 bytes)).map fun line => (name, line)) :: groups, status, m)
    | .error why =>
      let (own, m) := refuseEdited false name why m
      if own = 4 then ([], 4, m)
      else
        let (groups, status, m) := editedGroups mark m rest
        (groups, max own status, m)

/-- Edits groups of lines one after the other. -/
def editGroups (r : Run) (groups : List (List (String × Line))) : Run :=
  groups.foldl (fun r lines =>
    match r.outcome with
    | some (.left 0) =>
      if r.left.isEmpty then { r with outcome := none }.edit lines else r
    | some _ => r
    | none => r.edit lines) r

/-- Edits what is named, or the input. -/
def sed : Tool := withOptions editingForm fun o m =>
  let given := o.given.filter fun g => g.1 == 'e' || g.1 == 'f'
  let (given, names) := match given, o.operands with
    | [], script :: names => ([('e', script)], names)
    | given, names => (given, names)
  let form : ExpressionForm := if o.has 'E' || o.has 'r' then .strictExtended else .strictBasic
  let fail := fun (status : Nat) (what : String) (m : Machine) => (status, m.complain ("sed: " ++ what))
  if given.isEmpty then (1, m.complain editingForm.usage)
  else
    match scriptPieces m 1 given with
    | .error what => fail 4 what m
    | .ok pieces =>
      match Edit.Script.read form pieces with
      | .error why => fail why.status why.message m
      | .ok script =>
        let written := script.files true
        let lost := written.find? fun path => path != nullDevice && path != "/dev/stderr" &&
          path != mainSink && (canonical? m.disk m.directory path).all fun location =>
            (obstacle? m location).isSome
        match lost with
        | some path => fail 4 ("couldn't open file " ++ path ++ ": " ++ (absence m path).message) m
        | none =>
          let mark := if o.has 'z' then '\x00' else '\n'
          let contents := (script.files false).filterMap fun path =>
            ((bytesNamed m path).toOption).map fun bytes => (path, decodeUtf8 bytes)
          let setting : Setting :=
            { isQuiet := o.has 'n' || script.isQuiet
              mark
              width := (o.value? 'l').elim 70 fun width => width.toNat?.getD 0
              contents }
          let run : Run :=
            { script, setting, left := []
              others := contents.map fun (path, text) => (path, editedLines mark text)
              sinks := written.map fun path => (path, {}) }
          let expressions := (given.filter (·.1 == 'e')).length
          match o.value? 'i' with
          | some ending =>
            if names.isEmpty then fail 4 "no input files" m
            else editInPlace ending expressions run m 0 names
          | none =>
            let (groups, status, m) := editedGroups mark m (if names.isEmpty then ["-"] else names)
            let groups := if o.has 's' then groups else [groups.flatten]
            let (text, run) := takePrinted (editGroups run groups)
            let (own, m) := endedRun run expressions (placeSinks run (m.print text))
            (match own with
              | some 0 => status
              | some own => own
              | none => status, m)

end ProjectCheck.Shell
