import ProjectCheck.Shell.Control
import ProjectCheck.Shell.Gathering
import ProjectCheck.Shell.Search.Walk
import ProjectCheck.Shell.Word

/-!
# Running scripts

`runScript` runs a script on a machine: simple commands with their assignments and redirections, what
joins them, functions, groups, and the commands that run others.  All is bounded by a number of steps
into each other; a script that needs more does not come to an end.

A command is looked for among the special commands of the shell, the functions, the other commands of
the shell, and the tools, in this order.  Assignments in front of a special command stay; those in
front of another are known to that command alone.
-/

namespace ProjectCheck.Shell

open ProjectCheck.Disk ProjectCheck.Text

/-! ## Words of simple commands -/

/-- The words of a command.  Behind the commands that take assignments, an assignment is not taken
apart. -/
def expandWords (inner : String → Act String) (words : List Word) : Act (List String) := do
  match words with
  | [] => return []
  | first :: rest =>
    let lead ← expand inner first
    if lead.head?.any takesAssignments then
      let others ← rest.mapM fun w => do
        match assignment? [] w with
        | some (name, value) => return [name ++ "=" ++ (← expandValue inner value)]
        | none => expand inner w
      return lead ++ others.flatten
    else return lead ++ (← expandAll inner rest)

/-- Shows a command before it is run. -/
def showCommand (before : Machine) (assignments : List (String × String)) (words : List String) :
    Act Unit := do
  let m ← get
  let shown := fun (s : String) => if m.dialect = .large then quote s else s
  let parts := assignments.map (fun (name, value) => name ++ "=" ++ shown value) ++ words.map shown
  let streams := m.streams
  modify fun m =>
    { { m with streams := before.streams }.complain
        ((m.value? "PS4").getD "+ " ++ " ".intercalate parts) with
      streams }

/-- Puts streams back to where they went before. -/
def Machine.withStreams (m before : Machine) (redirects : List Redirect) : Machine :=
  { m with
    streams := redirects.foldl (fun streams r =>
      let stream := r.stream.getD r.direction.stream
      match Table.get? stream before.streams with
      | some channel => Table.put stream channel streams
      | none => Table.erase stream streams) m.streams }

/-- Whether a script prints for the outside, for all that is seen from its redirections. -/
def printsOutside (script : Script) : Bool :=
  let redirects := match script with
    | .simple _ _ _ redirects => redirects
    | .redirected _ _ redirects => redirects
    | .group _ _ redirects => redirects
    | _ => []
  [1, 2].any fun stream => redirects.all fun r => r.stream.getD r.direction.stream != stream

/-! ## What stands under a name -/

/-- Where a command is found. -/
inductive CommandKind where
  | reserved
  | nickname (text : String)
  | special
  | function (body : Script)
  | builtin
  | tool (path : String)
  | missing
deriving Repr

/-- Where a command of a name is found. -/
def commandKind (m : Machine) (name : String) : CommandKind :=
  if name.toList.contains '/' then
    if (m.reach? name).isSome || (toolOfPath? name).isSome then .tool name else .missing
  else if reservedWords.contains name then .reserved
  else
    match Table.get? name m.nicknames, isSpecial name, Table.get? name m.functions with
    | some text, _, _ => .nickname text
    | none, true, _ => .special
    | none, false, some body => .function body
    | none, false, none =>
      if isBuiltin name then .builtin
      else
        match (placesOf (m.value "PATH") name).find? m.hasCommand with
        | some path => if name.isEmpty then .missing else .tool path
        | none => .missing

/-- Says what a name stands for. -/
def describe (name : String) : Act Nat := do
  let say := fun (what : String) => do
    modify fun m => m.say (name ++ what ++ "\n")
    return 0
  match commandKind (← get) name with
  | .reserved => say " is a shell keyword"
  | .nickname text => say (" is an alias for " ++ text)
  | .special => say " is a special shell builtin"
  | .function _ => say " is a shell function"
  | .builtin => say " is a shell builtin"
  | .tool path => say (" is " ++ path)
  | .missing => let _ ← say ": not found"; return unknownStatus

/-- Prints the name that a command is called by, or the path of a tool. -/
def printCommand (name : String) : Act Nat := do
  match commandKind (← get) name with
  | .tool path => modify (·.say (path ++ "\n")); return 0
  | .missing => return unknownStatus
  | .nickname text => modify (·.say ("alias " ++ nicknameShown name text ++ "\n")); return 0
  | _ => modify (·.say (name ++ "\n")); return 0

/-! ## Programs -/

/-- What is run for the words of a command that is no command of the shell. -/
inductive Program where
  | plain (tool : Tool)
  /-- A tool that runs commands or takes time. -/
  | running (name : String)
  /-- A file that is read by a shell. -/
  | script (dialect : Dialect) (path text : String)
  /-- There is none, for a reason. -/
  | absent (why : Obstruction)

/-- The shell that a file asks for in its first line. -/
def interpreter? (text : String) : Option Dialect :=
  match textLines text.toList with
  | ('#' :: '!' :: line) :: _ =>
    let words := ((splitOn [' '] line).map String.ofList).filter (!·.isEmpty)
    match words.map lastName with
    | "env" :: "bash" :: _ => some .large
    | "env" :: "sh" :: _ => some .plain
    | "bash" :: _ => some .large
    | "sh" :: _ => some .plain
    | "dash" :: _ => some .plain
    | _ => none
  | _ => some .plain

/-- The program at a path. -/
def programAt (m : Machine) (path : String) : Program :=
  match m.reach path, toolOfPath? path with
  | .ok (.file content), _ =>
    let text := stringOfBytes content
    if !m.isProgram path then .absent .forbidden
    else
      match interpreter? text with
      | some dialect => .script dialect path text
      | none => .absent .missing
  | .ok _, _ => .absent .forbidden
  | .error _, some name =>
    match plainTools.lookup name with
    | some tool => .plain tool
    | none => .running name
  | .error why, none => .absent why

/-- Why a program is absent, if it is. -/
def Program.absence? : Program → Option Obstruction
  | absent why => some why
  | _ => none

/-- The program that a name or a path means, with the directories where names are looked for. -/
def programOf (m : Machine) (directories name : String) : Program :=
  if name.toList.contains '/' then programAt m name
  else if name.isEmpty then .absent .missing
  else
    let programs := (placesOf directories name).map (programAt m)
    match programs.find? fun program => program.absence?.isNone with
    | some program => program
    | none =>
      .absent (if programs.any fun program => program.absence? == some .forbidden then .forbidden else .missing)

/-- The directories where a tool looks for commands if no variable lists them. -/
def usualDirectories : String :=
  "/bin:/usr/bin"

/-- The status of a program that is absent. -/
def absentStatus (why : Obstruction) : Nat :=
  if why = .missing then unknownStatus else refusedStatus

/-- Why a program is absent, as a shell takes it: the plain one does not tell the ways apart in which a path
leads nowhere. -/
def absenceFor (dialect : Dialect) (why : Obstruction) : Obstruction :=
  if dialect = .plain && why = .notDirectory then .missing else why

/-- The status of a program that is absent for a shell.  To the plain one a name that it finds nowhere is unknown
for whatever reason. -/
def shellAbsentStatus (dialect : Dialect) (name : String) (why : Obstruction) : Nat :=
  if dialect = .plain && (why = .endlessLinks || why = .longName || !name.toList.contains '/') then unknownStatus
  else absentStatus (absenceFor dialect why)

/-- What a shell says of a program that is absent. -/
def Machine.complainOfAbsent (m : Machine) (name : String) (why : Obstruction) : Machine :=
  let why := absenceFor m.dialect why
  if why ≠ .missing then m.complainAsShell (name ++ ": " ++ why.message)
  else if name.isEmpty && m.dialect = .plain then m.complainAsShell (name ++ ": Permission denied")
  else if name.toList.contains '/' && m.dialect = .large then
    m.complainAsShell (name ++ ": " ++ why.message)
  else unknownCommand m name

/-- How long anything may take. -/
def patienceMs : Nat :=
  1000000000

/-- Waits, unless what is running has to end before. -/
def waitFor (ms : Nat) : Act Unit := do
  let m ← get
  let end_ := m.elapsedMs + ms
  match m.deadlineMs with
  | some deadline =>
    if deadline < end_ then
      set { m with elapsedMs := deadline }
      throw .overdue
    else set (m.wait ms)
  | none => if patienceMs < end_ then Act.endless else set (m.wait ms)

/-- The status of a command whose time is over. -/
def timedStatus : Nat :=
  124

/-- The status when a command for words of the input has failed. -/
def gatheredStatus : Nat :=
  123

/-- Waits for the times that arguments give, one after the other. -/
def sleep (args : List String) : Act Nat := do
  let o := Options.read { tool := "sleep" } args
  let bad := o.operands.filter fun arg => (waitingTime? arg).isNone
  match o.fault with
  | some fault => modify (·.complain (OptionForm.complaint { tool := "sleep" } fault)); return 1
  | none =>
    if o.operands.isEmpty then
      modify (·.complain ("sleep: missing operand\n" ++ CallFault.hint "sleep"))
      return 1
    else if !bad.isEmpty then
      modify (·.complain (lined (bad.map fun arg => "sleep: invalid time interval " ++ quoted arg) ++
        CallFault.hint "sleep"))
      return 1
    else
      o.operands.forM fun arg =>
        match waitingTime? arg with
        | some (some ms) => waitFor ms
        | _ => waitFor patienceMs
      return 0

/-- How many lines are printed where no end is in sight, but only some will be read. -/
def lineSupply : Nat :=
  5000

/-- Prints a line again and again, as long as it is read. -/
def yes (args : List String) : Act Nat := do
  match OptionForm.readCommand { tool := "yes" } args with
  | .error fault => modify (·.complain fault.text); return fault.status
  | .ok (_, words) =>
    let line := (if words.isEmpty then "y" else " ".intercalate words) ++ "\n"
    match (← get).channel? 1 with
    | some { backing := .gathered _, .. } =>
      modify (·.print (List.replicate lineSupply (bytesOf line)).flatten)
      return 0
    | _ => Act.endless

/-- The options of the tool that looks for commands. -/
def lookupForm : OptionForm :=
  { tool := "which", plain := ['a', 's'], faultStatus := 2
    usage := "Usage: " ++ toolDirectory ++ "which [-as] args" }

/-- Prints the paths of commands. -/
def which : Tool := fun args m =>
  let (options, names) := splitFromCommand lookupForm args
  let o := Options.read lookupForm options
  let refused := o.fault.bind fun fault =>
    match fault with
    | .unknownLetter c => some c
    | .unknownName _ => some '-'
    | _ => none
  match refused with
  | some c => (2, (m.complain ("Illegal option -" ++ String.singleton c)).say (lookupForm.usage ++ "\n"))
  | none =>
    let show_ := fun (paths : List String) (m : Machine) =>
      (if paths.isEmpty then 1 else 0, if o.has 's' then m else m.say (lined paths))
    let places := fun (name : String) => (placesOf (m.value "PATH") name).map fun path =>
      if path == name then "./" ++ name else path
    let (status, m) := forEach (fun name m =>
      if name.toList.contains '/' then show_ ([name].filter m.hasCommand) m
      else
        let found := (places name).filter m.hasCommand
        show_ (if o.has 'a' then found else found.take 1) m) names m
    (if names.isEmpty then 1 else status, m)

/-- Prints the names of signals. -/
def listSignals (numbers : List String) : Act Nat := do
  match numbers with
  | [] =>
    modify (·.say (lined ("0" :: Signal.names.drop 1)))
    return 0
  | text :: _ =>
    let n ← numberArgument text
    let signal := if n > 128 then n - 128 else n
    if signal = 0 || signal ≥ Signal.numberLimit then
      Act.refuse ("invalid signal number or exit status: " ++ text)
    modify (·.say (Signal.name signal ++ "\n"))
    return 0

/-- How many functions may be at work inside of each other. -/
def callLimit : Nat :=
  1000

/-! ## Running -/

mutual

/-- Runs a script. -/
def runScript : Nat → Standing → Script → Act Nat
  | 0, _, _ => Act.endless
  | fuel + 1, s, script => do
    if (← get).isOn 'n' then return 0
    let inner := capture fuel
    let tested : Standing := { isTested := true }
    let within : Standing := { isTested := s.isTested }
    /- The status, and whether it is one to leave the shell for. -/
    let (status, counts) ← (do
      match script with
      | .simple line assignments words redirects =>
        return (← runSimple fuel s line assignments words redirects, true)
      | .redirected line body redirects =>
        modify fun m => { m with line }
        let m ← get
        match ← followed inner redirects with
        | some status => return (status, false)
        | none =>
          let status ← (runScript fuel within body).andFinally fun after =>
            after.withStreams m redirects
          return (status, false)
      | .group line body redirects =>
        modify fun m => { m with line }
        let m ← get
        let isShell := s.isLast && !m.hasTraps
        let act := wholly (runText fuel {}) do
          match ← followed inner redirects with
          | some status => throw (.exited status)
          | none => runScript fuel { s with isLast := true } body
        let status ← awaited isShell (Act.inCopy (fun m =>
          { m.copied with depth := if isShell then m.depth else m.depth + 1 }) act)
        receiveDoom fuel
        return (status, true)
      | .loop isUntil test body =>
        return (← loopWhile isUntil (runScript fuel tested test) (runScript fuel within body), false)
      | .loopOver line name values body =>
        modify fun m => { m with line }
        let values ← match values with
          | some words => expandAll inner words
          | none => do
            let m ← get
            pure m.arguments
        let turn := fun (value : String) => do
          checkedAssign name value
          runScript fuel within body
        return (← inLoop (loopOver turn values 0), false)
      | .branch test body otherwise =>
        if (← runScript fuel tested test) = 0 then return (← runScript fuel s body, false)
        else
          match otherwise with
          | some other => return (← runScript fuel s other, false)
          | none => return (0, false)
      | .choice line subject cases =>
        modify fun m => { m with line, innerStatus := 0 }
        match ← chosen inner (← expandText inner subject) cases with
        | some body => return (← runScript fuel s body, false)
        | none => return (0, false)
      | .define _ name body =>
        modify fun m => { m with functions := Table.put name body m.functions }
        return (0, false)
      | .pipe first others =>
        let m ← get
        let run := fun (stage : Script) =>
          wholly (runText fuel {}) (runScript fuel { s with isLast := true } stage)
        let statuses ← piped run m.elapsedMs m.elapsedMs none (first :: others)
        receiveDoom fuel
        return (statusOfPipe m statuses, true)
      | .background body =>
        let m ← get
        let act := wholly (runText fuel {}) (runScript fuel { isLast := true } body)
        let result ← (Act.inCopy (fun m => m.copied.openChannel 0 { backing := .nowhere }) act).settle
        let (status, signal) ← match result with
          | .ok status => pure (status, none)
          | .error (.killed signal) => pure (128 + signal, some signal)
          | .error ending => throw ending
        modify fun after =>
          { after with
            elapsedMs := m.elapsedMs, behindStatus := status, behindSignal := signal
            behindUntilMs := Nat.max m.behindUntilMs after.elapsedMs
            heldUntilMs := if printsOutside body then Nat.max m.heldUntilMs after.elapsedMs
              else m.heldUntilMs }
        return (0, false)
      | .andThen first second =>
        let status ← runScript fuel tested first
        if status = 0 then return (← runScript fuel s second, false) else return (status, false)
      | .orElse first second =>
        let status ← runScript fuel tested first
        if status = 0 then return (0, false) else return (← runScript fuel s second, false)
      | .negate body =>
        let status ← runScript fuel tested body
        return (if status = 0 then 1 else 0, false)
      | .sequence first second =>
        let _ ← runScript fuel within first
        return (← runScript fuel s second, false))
    modify fun m => { m with status }
    if counts && status != 0 && !s.isTested && (← get).isOn 'e' then throw (.exited status)
    return status

/-- Runs a simple command. -/
def runSimple : Nat → Standing → (line : Nat) → List (String × Word) → List Word →
    List Redirect → Act Nat
  | 0, _, _, _, _, _ => Act.endless
  | fuel + 1, s, line, assignments, words, redirects => do
    modify fun m => { m with line, innerStatus := 0 }
    let inner := capture fuel
    let words ← expandWords inner words
    let before ← get
    let special := words.head?.any isSpecial
    match ← followed inner redirects with
    | some status => if special then throw (.exited status) else return status
    | none =>
      let stays := special || words.isEmpty
      let isReplacing := words.head? == some "exec"
      let act := do
        let values ← assignments.mapM fun (name, w) => do
          let value ← expandValue inner w
          checkedAssign name value
          if !stays || (isReplacing && words.length > 1) then
            modify fun (m : Machine) => m.bind name { m.binding name with isExported := true }
          return (name, value)
        if (← get).isOn 'x' then showCommand before values words
        runWords fuel s true words
      act.andFinally fun after =>
        let after := if words == ["exec"] then after else after.withStreams before redirects
        if stays then after
        else assignments.foldl (fun m (name, _) => m.restore name (Table.get? name before.bindings))
          after

/-- Runs the words of a command. -/
def runWords : Nat → Standing → (knowsFunctions : Bool) → List String → Act Nat
  | 0, _, _, _ => Act.endless
  | fuel + 1, s, knowsFunctions, words => do
    match words with
    | [] => return (← get).innerStatus
    | name :: args =>
      let m ← get
      let call := runBuiltin fuel s name args
      let isSource := name == "source" && m.dialect = .large
      if name.toList.contains '/' then runProgram fuel s words
      else if isSpecial name || isSource then
        match ← call.settle with
        | .error .refused =>
          if m.dialect = .large || !knowsFunctions then return 1 else throw (.exited 2)
        | result => Act.resume result
      else
        match (Table.get? name m.functions).filter fun _ => knowsFunctions with
        | some body => callFunction fuel s body args
        | none =>
          if isBuiltin name then
            match ← call.settle with
            | .error .refused => return redirectStatus m.dialect
            | result => Act.resume result
          else runProgram fuel s words

/-- Runs a command of the shell, which speaks in its name. -/
def runBuiltin : Nat → Standing → String → Builtin
  | 0, _, _, _ => Act.endless
  | fuel + 1, s, name, args => do
    let m ← get
    let within : Standing := { isTested := s.isTested }
    let isScript := name == "eval" || name == "command"
    if !(isScript && m.dialect = .large) then modify fun m => { m with speaker := some name }
    let act : Act Nat := match name with
      | "eval" => runText fuel within (" ".intercalate args)
      | "." => runFile fuel within args
      | "source" => runFile fuel within args
      | "kill" => do
        match ← readKill args with
        | .list numbers => listSignals numbers
        | .send signal targets => sendSignal fuel signal targets 0
      | "type" => args.foldlM (fun status name => do
          let own ← describe name
          return if own = 0 then status else own) 0
      | "command" => do
        modify fun inner => { inner with speaker := m.speaker }
        match args.dropWhile fun arg => arg == "-p" || arg == "--" with
        | "-v" :: name :: _ => printCommand name
        | "-V" :: name :: _ => describe name
        | words => runWords fuel within false words
      | "exec" => do
        match args.dropWhile (· == "--") with
        | [] => return 0
        | words =>
          modify fun m => { m with traps := [] }
          throw (.exited (← runProgram fuel { isLast := true } words))
      | _ => ((builtins.lookup name).getD fun _ => return 0) args
    act.andFinally fun after => { after with speaker := m.speaker }

/-- Runs the commands of a file in the shell. -/
def runFile : Nat → Standing → Builtin
  | 0, _, _ => Act.endless
  | fuel + 1, s, args => do
    match args with
    | [] => Act.refuse "filename argument required"
    | path :: _ =>
      let m ← get
      if !path.toList.contains '/' && m.dialect = .plain then Act.refuse (path ++ ": not found")
      match m.reach path with
      | .ok (.file content) =>
        if m.dialect = .plain then modify fun m => { m with speaker := some path }
        match ← (runText fuel s (stringOfBytes content)).settle with
        | .error (.returned status) => return status
        | result => Act.resume result
      | .ok _ => return 0
      | .error why => Act.refuse ((RedirectFault.unreadable path why).message m.dialect)

/-- Runs the body of a function. -/
def callFunction : Nat → Standing → Script → List String → Act Nat
  | 0, _, _, _ => Act.endless
  | fuel + 1, s, body, args => do
    let m ← get
    if m.dialect = .plain && m.frames.length ≥ callLimit then
      Act.fail ("Maximum function recursion depth (" ++ toString callLimit ++ ") reached")
    set { m with arguments := args, frames := [] :: m.frames, loops := 0, optionPlace := (1, 0) }
    let result ← (runScript fuel { isTested := s.isTested } body).settle
    modify fun after =>
      let after := (after.frames.headD []).foldl (fun after (name, old) => after.restore name old)
        after
      { after with
        arguments := m.arguments, frames := m.frames, loops := m.loops
        optionPlace := m.optionPlace }
    match result with
    | .error (.returned status) => return status
    | .error (.broken _) => return 0
    | .error (.continued _) => return 0
    | result => Act.resume result

/-- Runs the commands of a text. -/
def runText : Nat → Standing → String → Act Nat
  | 0, _, _ => Act.endless
  | fuel + 1, s, text =>
    commandsOf (fun isLast script => runScript fuel { s with isLast := s.isLast && isLast } script)
      text

/-- What the commands of a text print, without the line ends at the end. -/
def capture : Nat → String → Act String
  | 0, _ => Act.endless
  | fuel + 1, text => do
    let act := wholly (runText fuel {}) (runText fuel { isLast := true } text)
    let (status, bytes) ← gathering Machine.copied act
    modify fun m => { m with innerStatus := status }
    receiveDoom fuel
    return String.ofList (dropEndWhile (· == '\n') (decodeUtf8 (bytes.filter (· != 0))))

/-- Sends a signal to commands; only the shell itself and the last command that was not waited for
can be reached. -/
def sendSignal : Nat → (signal : Nat) → List String → (status : Nat) → Act Nat
  | 0, _, _, _ => Act.endless
  | _ + 1, _, [], status => return status
  | fuel + 1, signal, target :: rest, status => do
    let m ← get
    if target == ownNumber then
      if m.depth = 0 then receive fuel signal
      else set { m with doom := some signal }
      sendSignal fuel signal rest status
    else if target == behindNumber || target.toList.head? == some '%' then
      if m.elapsedMs < m.behindUntilMs && Signal.effect signal = .kill then
        set { m with
          behindUntilMs := m.elapsedMs, heldUntilMs := m.elapsedMs
          behindStatus := 128 + signal, behindSignal := some signal }
      sendSignal fuel signal rest status
    else
      let _ ← numberArgument (String.ofList (dropLead ['-'] target.toList))
      modify (·.complainAsShell "No such process\n")
      sendSignal fuel signal rest 1

/-- Does what a signal does to the shell. -/
def receive : Nat → Nat → Act Unit
  | 0, _ => Act.endless
  | fuel + 1, signal => do
    let m ← get
    let command := (Table.get? (Signal.name signal) m.traps).filter fun _ =>
      signal != 9 && signal != 19
    match command, Signal.effect signal with
    | some command, _ =>
      set { m with trapStatus := some m.status }
      let _ ← (runText fuel {} command).andFinally fun after =>
        { after with status := m.status, trapStatus := m.trapStatus }
    | none, .none => return
    | none, .stop => Act.endless
    | none, .kill => throw (.killed signal)

/-- Does what a signal does that a copy of the shell has sent to it. -/
def receiveDoom : Nat → Act Unit
  | 0 => Act.endless
  | fuel + 1 => do
    let m ← get
    match m.doom with
    | none => return
    | some signal =>
      if m.depth = 0 then
        set { m with doom := none }
        receive fuel signal

/-- Runs a program from the shell. -/
def runProgram : Nat → Standing → List String → Act Nat
  | 0, _, _ => Act.endless
  | fuel + 1, s, words => do
    let isShell := s.isLast && !(← get).hasTraps
    match ← awaitedLaunch fuel isShell words with
    | .ok status => return status
    | .error why =>
      modify fun m => m.complainOfAbsent (words.headD "") why
      return shellAbsentStatus (← get).dialect (words.headD "") why

/-- Runs a program and waits for it. -/
def awaitedLaunch : Nat → (isShell : Bool) → List String → Act (Except Obstruction Nat)
  | 0, _, _ => Act.endless
  | fuel + 1, isShell, words => do
    match ← (launch fuel ((← get).value "PATH") words).settle with
    | .error (.killed signal) => return .ok (← awaited isShell (throw (.killed signal)))
    | result => Act.resume result

/-- Runs a program, or gives the reason for which there is none.  Names are looked for in directories. -/
def launch : Nat → (directories : String) → List String → Act (Except Obstruction Nat)
  | 0, _, _ => Act.endless
  | _ + 1, _, [] => return .ok 0
  | fuel + 1, directories, name :: args => do
    let m ← get
    match programOf m directories name with
    | .absent why => return .error why
    | .script dialect path text =>
      return .ok (← Act.inCopy (fun m => m.forShell dialect path args)
        (wholly (runText fuel {}) (runText fuel {} text)))
    | .plain tool => return .ok (← Act.use (tool args))
    | .running tool =>
      match tool with
      | "sleep" => return .ok (← sleep args)
      | "yes" => return .ok (← yes args)
      | "which" => return .ok (← Act.use (which args))
      | "find" => return .ok (← find (runFrom fuel) args)
      | "env" => return .ok (← runInEnvironment fuel args)
      | "xargs" => return .ok (← runGathering fuel args)
      | "timeout" => return .ok (← runTimed fuel args)
      | "nohup" => return .ok (← runCalled fuel "nohup" (fun name => "failed to run command " ++ cited name)
          (readLasting args))
      | "stdbuf" => return .ok (← runCalled fuel "stdbuf" (fun name => "failed to run command " ++ quoted name)
          (readBuffered args))
      | "nice" =>
        match readGivingWay args with
        | .ok [] => return .ok (← Act.use (repeating "0" []))
        | words => return .ok (← runCalled fuel "nice" quoted words)
      | _ => return .ok (← runShell fuel name args)

/-- Runs a program for a tool, which says so if there is none. -/
def runOther : Nat → (tool : String) → (shown : String → String) → List String → Act Nat
  | 0, _, _, _ => Act.endless
  | fuel + 1, tool, shown, words => do
    match ← launch fuel (((← get).value? "PATH").getD usualDirectories) words with
    | .ok status => return status
    | .error why =>
      let name := words.headD ""
      modify (·.complain (tool ++ ": " ++ shown name ++ ": " ++ why.message))
      if tool == "env" && why = .missing && name.toList.any Char.isWhitespace then
        modify (·.complain "env: use -[v]S to pass options in shebang lines")
      return absentStatus why

/-- Runs the program that a tool is called with, unless the call is wrong. -/
def runCalled : Nat → (tool : String) → (shown : String → String) → Except CallFault (List String) →
    Act Nat
  | 0, _, _, _ => Act.endless
  | fuel + 1, tool, shown, call => do
    match call with
    | .error fault => modify (·.complain fault.text); return fault.status
    | .ok words => runOther fuel tool shown words

/-- Runs a program in another environment, or shows what that environment is. -/
def runInEnvironment : Nat → List String → Act Nat
  | 0, _ => Act.endless
  | fuel + 1, args => do
    let m ← get
    let exported := fun (name : String) => ((m.binding name).value).filter fun _ => (m.binding name).isExported
    match EnvironmentCall.read exported args with
    | .error fault => modify (·.complain fault.text); return fault.status
    | .ok call =>
      let tell := fun (lines : List String) => do
        if call.isTold then lines.forM fun line => modify (Machine.complain · line)
      let enter := fun (m : Machine) => { m with bindings := call.bindings m.bindings }
      tell call.changesTold
      if call.words.isEmpty then
        Act.inCopy enter (Act.use (printenv (if call.isUnlined then ["-0"] else [])))
      else
        let run := fun (enter : Machine → Machine) => do
          tell call.commandTold
          Act.inCopy enter (runOther fuel "env" quoted call.words)
        match call.directory with
        | none => run enter
        | some path =>
          tell ["chdir:    " ++ cited path]
          let fail := fun (why : Obstruction) => do
            modify (·.complain ("env: cannot change directory to " ++ cited path ++ ": " ++ why.message))
            return CallFault.usualStatus
          match m.reach path, canonical? m.disk m.directory path with
          | .ok (.directory _), some directory => run fun m => { enter m with directory, way := none }
          | .ok _, _ => fail .notDirectory
          | .error why, _ => fail why

/-- Runs a program within a time. -/
def runTimed : Nat → List String → Act Nat
  | 0, _ => Act.endless
  | fuel + 1, args => do
    match TimedCall.read args with
    | .error fault => modify (·.complain fault.text); return fault.status
    | .ok call =>
      let m ← get
      let end_ := call.end?.map fun (_, limit) => m.elapsedMs + limit
      let isOwn := end_.any fun own => m.deadlineMs.all (own < ·)
      let act := Act.inCopy (fun m => if isOwn then { m with deadlineMs := end_ } else m)
        (runOther fuel "timeout" (fun name => "failed to run command " ++ quoted name) call.words)
      let result ← act.settle
      let waited := (← get).elapsedMs - m.elapsedMs
      let sent := call.signals.filter fun (_, limit) => limit < waited || (limit = waited && isOwn)
      let tell : Act Unit := do
        if call.isTold then sent.forM fun (signal, _) => modify (Machine.complain · (call.told signal))
      match result with
      | .error .overdue =>
        if !isOwn then throw .overdue
        tell
        let last := (sent.getLast?.map (·.1)).getD call.signal
        if last = 9 && call.isForeground then return 128 + last
        else if last = 9 then throw (.killed 9)
        else return if call.keepsStatus then 128 + last else timedStatus
      | .error ending => throw ending
      | .ok status =>
        tell
        return if sent.isEmpty || call.keepsStatus then status else timedStatus

/-- Runs programs with words of the input. -/
def runGathering : Nat → List String → Act Nat
  | 0, _ => Act.endless
  | fuel + 1, args => do
    let refuse := fun (fault : CallFault) (status : Nat) => do
      modify (Machine.complain · fault.text)
      return if status = 0 then fault.status else status
    match GatheringCall.read args with
    | .error fault => refuse fault 0
    | .ok call =>
      call.warnings.forM fun warning => modify (Machine.complain · warning)
      let m ← get
      let input := match bytesNamed m (call.source.getD "-") with
        | .error .isDirectory => Except.ok []
        | input => input
      match input with
      | .error why =>
        let shown := quoted (call.source.getD "-")
        refuse (GatheringCall.fault ("Cannot open input file " ++ shown ++ ": " ++ why.message)) 0
      | .ok input =>
        set (afterReading m (call.source.getD "-"))
        let plan := call.plan (decodeUtf8 input)
        let enter := fun (m : Machine) =>
          if call.source.isSome then m else m.openChannel 0 { backing := .nowhere }
        Act.iterate (fun (left, status) => do
          match left with
          | [] =>
            match plan.fault with
            | some fault => return .inr (← refuse fault status)
            | none => return Sum.inr status
          | words :: rest =>
            match ← gatheringStep fuel call enter words with
            | .inl own => return .inl (rest, if own = 0 then status else gatheredStatus)
            | .inr last => return .inr last) (plan.commands.length + 1) (plan.commands, 0)

/-- Runs a program with some words of the input: its status, or the one that ends it all. -/
def gatheringStep : Nat → GatheringCall → (enter : Machine → Machine) → List String → Act (Nat ⊕ Nat)
  | 0, _, _, _ => Act.endless
  | fuel + 1, call, enter, words => do
    let say := fun (what : String) =>
      modify (Machine.complain · ("xargs: " ++ what))
    let name := words.headD ""
    let shown := " ".intercalate (words.map fun word => if isPlainName word.toList then word else cited word)
    if call.isAsking then
      modify (Machine.complain · (shown ++
        "xargs: failed to open /dev/tty for reading: No such device or address"))
      return .inr 1
    if call.isTold then modify (Machine.complain · shown)
    let directories := ((← get).value? "PATH").getD usualDirectories
    match ← (Act.inCopy enter (launch fuel directories words)).settle with
    | .ok (.error why) =>
      say (name ++ ": " ++ why.message)
      return .inr (absentStatus why)
    | .ok (.ok 255) =>
      say (name ++ ": exited with status 255; aborting")
      return .inr 124
    | .ok (.ok own) => return .inl own
    | .error (.killed signal) =>
      say (name ++ ": terminated by signal " ++ toString signal)
      return .inr 125
    | .error ending => throw ending

/-- Runs a program in a directory, or in that at work. -/
def runFrom : Nat → FoundRunner
  | 0, _, _ => Act.endless
  | fuel + 1, directory, words => do
    let directories := ((← get).value? "PATH").getD usualDirectories
    Act.inCopy (fun m =>
      match directory with
      | some directory => { m with directory, way := none }
      | none => m) (launch fuel directories words)

/-- Runs a shell of its own. -/
def runShell : Nat → (name : String) → List String → Act Nat
  | 0, _, _ => Act.endless
  | fuel + 1, name, args => do
    let call := ShellCall.read args
    let dialect : Dialect := if lastName name == "bash" then .large else .plain
    let m ← get
    let begin_ := fun (shellName : String) (arguments : List String) (m : Machine) =>
      m.forShell dialect shellName arguments
    let turnAll : Act Unit := do
      call.letters.forM fun (letter, isOn) => turnLetter isOn letter
      call.names.forM fun (option, isOn) => turnNamed isOn option
    let fault := fun (what : String) (status : Nat) => do
      modify fun m => m.complain (name ++ (if dialect = .plain then ": 0: " else ": ") ++ what)
      return status
    let run := fun (shellName : String) (arguments : List String) (s : Standing) (text : String) =>
      Act.inCopy (begin_ shellName arguments) (wholly (runText fuel {}) (do
        modify fun m => { m with line := 0 }
        turnAll
        runText fuel s text))
    if call.hasScript then
      match call.operands with
      | [] => fault (if dialect = .plain then "-c requires an argument"
          else "-c: option requires an argument") 2
      | text :: rest => run (rest.headD name) (rest.drop 1) {} text
    else
      match call.operands, call.readsInput with
      | [], _ =>
        let text := stringOfBytes m.input
        modify (·.withoutInput)
        run name [] {} text
      | arguments, true =>
        let text := stringOfBytes m.input
        modify (·.withoutInput)
        run name arguments {} text
      | path :: arguments, false =>
        match m.reach path with
        | .ok (.file content) => run path arguments {} (stringOfBytes content)
        | .ok _ =>
          if dialect = .large then fault (path ++ ": " ++ Obstruction.message .isDirectory) refusedStatus
          else return 0
        | .error why =>
          fault ((RedirectFault.unreadable path why).message dialect)
            (if dialect = .large then unknownStatus else 2)

end

/-! ## Commands -/

/-- How deep steps may be inside of each other: more than any loop over the files of a scan takes. -/
def stepLimit : Nat :=
  20000

/-- The variables that a shell begins with. -/
def firstBindings (directory : Location) : Table String Binding :=
  [("HOME", { value := some "/home/tester", isExported := true }),
   ("PATH", { value := some "/usr/local/bin:/usr/local/sbin:/usr/sbin:/usr/bin:/sbin:/bin",
              isExported := true }),
   ("PWD", { value := some (Location.text directory), isExported := true }),
   ("IFS", { value := some " \t\n" }), ("OPTIND", { value := some "1" }),
   ("PS1", { value := some "# " }), ("PS2", { value := some "> " }),
   ("PS4", { value := some "+ " })]

/-- Runs a command of the plain shell; nothing if it does not come to an end. -/
def runCommand? (command : String) (m : Machine) : Option (Except Ending Nat × Machine) :=
  let start := { m with bindings := firstBindings m.directory }
  let act := wholly (runText stepLimit {}) (runText stepLimit {} command)
  (act.on start).map fun (result, m) =>
    (result, { m with elapsedMs := Nat.max m.elapsedMs m.heldUntilMs })

end ProjectCheck.Shell
