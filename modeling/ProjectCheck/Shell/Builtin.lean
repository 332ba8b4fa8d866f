import ProjectCheck.Shell.Call
import ProjectCheck.Shell.Grammar
import ProjectCheck.Shell.Redirection
import ProjectCheck.Shell.Tool

/-!
# Commands of the shell

Commands that change the shell itself: its variables, options, arguments and directory, and where it
goes on.  A command that cannot do what it is asked for is refused, with a complaint in its name.
For the commands that are special, to be refused is to leave the shell.
-/

namespace ProjectCheck.Shell

open ProjectCheck.Disk ProjectCheck.Text

/-- A command of the shell: with arguments it is done, and gives a status. -/
abbrev Builtin :=
  List String → Act Nat

/-! ## Leaving -/

/-- Leaves the shell with a status, or with that of the last command. -/
def exitShell : Builtin := fun args => do
  let m ← get
  match args with
  | [] => throw (.exited (m.trapStatus.getD m.status))
  | text :: _ =>
    if m.dialect = .large then
      match text.toInt? with
      | some n => throw (.exited (n % 256).toNat)
      | none =>
        modify (·.complainAsShell (text ++ ": numeric argument required"))
        throw (.exited 2)
    else throw (.exited (← numberArgument text))

/-- Leaves the function at work with a status, or with that of the last command. -/
def returnFrom : Builtin := fun args => do
  match args with
  | [] => throw (.returned (← get).status)
  | text :: _ => throw (.returned (← numberArgument text))

/-- Leaves loops, or goes on with their next turn; without loops there is nothing to do. -/
def leaveLoops (ending : Nat → Ending) : Builtin := fun args => do
  let count ← match args with
    | [] => pure 1
    | text :: _ => do
      let n ← numberArgument text
      if n = 0 then Act.refuse ("Illegal number: " ++ text) else pure n
  let count := Nat.min count (← get).loops
  if count = 0 then return 0 else throw (ending count)

/-- Drops arguments at the front. -/
def shift : Builtin := fun args => do
  let count ← match args with
    | [] => pure 1
    | text :: _ => numberArgument text
  if count > (← get).arguments.length then Act.refuse "can't shift that many"
  modify fun m => { m with arguments := m.arguments.drop count }
  return 0

/-! ## Options -/

/-- The options of the shell with their letters, in the order in which they are shown. -/
def shellOptions : List (Char × String) :=
  [('e', "errexit"), ('f', "noglob"), ('I', "ignoreeof"), ('i', "interactive"), ('m', "monitor"),
   ('n', "noexec"), ('s', "stdin"), ('x', "xtrace"), ('v', "verbose"), ('V', "vi"), ('E', "emacs"),
   ('C', "noclobber"), ('a', "allexport"), ('b', "notify"), ('u', "nounset")]

/-- The letter for the option of the larger shell that a pipe fails with any of its commands. -/
def pipeFailure : Char :=
  'P'

/-- Turns an option on or off. -/
def turn (option : Char) (isOn : Bool) (m : Machine) : Machine :=
  let all := shellOptions.map (·.1) ++ [pipeFailure]
  { m with options := all.filter fun c => if c == option then isOn else m.options.contains c }

/-- Turns an option on or off that is named by its letter. -/
def turnLetter (isOn : Bool) (letter : Char) : Act Unit := do
  if (shellOptions.lookup letter).isSome then modify (turn letter isOn)
  else if (← get).dialect = .plain || !"hBHPTkpt".toList.contains letter then
    Act.refuse ("Illegal option -" ++ String.singleton letter)

/-- Turns an option on or off that is named by its name. -/
def turnNamed (isOn : Bool) (name : String) : Act Unit := do
  match shellOptions.find? (·.2 == name) with
  | some (letter, _) => modify (turn letter isOn)
  | none =>
    if (← get).dialect = .large then
      if name == "pipefail" then modify (turn pipeFailure isOn)
    else if !(["nolog", "debug"].contains name) then Act.refuse ("Illegal option -o " ++ name)

/-- What is printed of all options. -/
def optionsShown (m : Machine) : String :=
  "Current option settings\n" ++ lined (shellOptions.map fun (letter, name) =>
    name ++ String.ofList (List.replicate (16 - name.length) ' ') ++
      if m.isOn letter then "on" else "off")

/-- Turns options on or off as arguments say, and gives the arguments behind them; `none` if there
are none because they end without a sign for it. -/
def turnAll : List String → Act (Option (List String))
  | [] => return none
  | arg :: rest => do
    match arg.toList with
    | ['-'] => modify (turn 'x' false ∘ turn 'v' false); return if rest.isEmpty then none else some rest
    | ['-', '-'] => return some rest
    | sign :: letters =>
      if sign != '-' && sign != '+' then return some (arg :: rest)
      else
        let isOn := sign == '-'
        (letters.filter (· != 'o')).forM (turnLetter isOn)
        if letters.contains 'o' then
          match rest with
          | name :: rest => turnNamed isOn name; turnAll rest
          | [] => modify fun m => m.say (optionsShown m); return none
        else turnAll rest
    | [] => return some (arg :: rest)

/-- A text in quotes, as the shell shows values: in single quotes, with the single quotes in it in
double quotes. -/
def quotedChars (s : List Char) : List Char :=
  let plain := s.takeWhile (· != '\'')
  match _h : s.drop plain.length with
  | [] => '\'' :: plain ++ ['\'']
  | c :: rest =>
    let quotes := rest.takeWhile (· == '\'')
    let others := rest.drop quotes.length
    '\'' :: plain ++ ['\'', '"', c] ++ quotes ++ '"' ::
      (if others.isEmpty then [] else quotedChars others)
termination_by s.length
decreasing_by
  have := congrArg List.length _h
  simp only [List.length_drop, List.length_cons] at this ⊢
  omega

/-- A text in quotes, as the shell shows values. -/
def quotedValue (s : String) : String :=
  String.ofList (quotedChars s.toList)

/-- Variables as they are shown. -/
def variablesShown (lead : String) (bindings : Table String Binding) : String :=
  lined ((bindings.mergeSort fun a b => decide (a.1 ≤ b.1)).map fun (name, b) =>
    lead ++ name ++ (b.value.elim "" fun value => "=" ++ quotedValue value))

/-- Turns options on or off, and gives the shell new arguments; without arguments it shows the
variables. -/
def setShell : Builtin := fun args => do
  if args.isEmpty then
    modify fun m => m.say (variablesShown "" (m.bindings.filter (·.2.value.isSome)))
  else if let some arguments ← turnAll args then modify fun m => { m with arguments }
  return 0

/-! ## Variables -/

/-- The name in front of an equals sign, and the value behind it, if there is one. -/
def splitAssignment (text : String) : String × Option String :=
  let name := text.toList.takeWhile (· != '=')
  (String.ofList name,
    if name.length < text.length then some (String.ofList (text.toList.drop (name.length + 1)))
    else none)

/-- Refuses what is not the name of a variable, or is the name of one that cannot be changed. -/
def checkName (name : String) (isChanged : Bool) : Act Unit := do
  if !isName name.toList then Act.refuse (name ++ ": bad variable name")
  if isChanged && (← get).isReadOnly name then Act.refuse (name ++ ": is read only")

/-- Marks variables, some of which get a value; without names it shows those that are marked. -/
def markVariables (word : String) (isMarked : Binding → Bool) (mark : Binding → Binding) : Builtin :=
  fun args => do
    let names := args.filter fun arg => arg != "-p" && arg != "--"
    if names.isEmpty then
      modify fun m => m.say (variablesShown (word ++ " ") (m.bindings.filter fun b => isMarked b.2))
    names.forM fun text => do
      let (name, value) := splitAssignment text
      checkName name value.isSome
      if let some value := value then modify (·.assign name value)
      modify fun m => m.bind name (mark (m.binding name))
    return 0

/-- Passes variables on to the commands that are run. -/
def exportVariables : Builtin :=
  markVariables "export" (·.isExported) fun b => { b with isExported := true }

/-- Keeps variables from being changed. -/
def protectVariables : Builtin :=
  markVariables "readonly" (·.isReadOnly) fun b => { b with isReadOnly := true }

/-- Forgets variables, or functions. -/
def unsetNames : Builtin := fun args => do
  let (isFunction, names) := match args with
    | "-f" :: rest => (true, rest)
    | "-v" :: rest => (false, rest)
    | rest => (false, rest)
  names.forM fun name => do
    if isFunction then modify fun m => { m with functions := Table.erase name m.functions }
    else
      checkName name true
      modify fun m => { m with bindings := Table.erase name m.bindings }
  return 0

/-- Gives the function at work variables of its own, which begin with the values that they have. -/
def localVariables : Builtin := fun args => do
  match (← get).frames with
  | [] => Act.refuse "not in a function"
  | _ =>
    args.forM fun text => do
      let (name, value) := splitAssignment text
      checkName name value.isSome
      modify fun m =>
        match m.frames with
        | frame :: outer =>
          let old := Table.get? name m.bindings
          { m with frames := (if Table.has name frame then frame else (name, old) :: frame) :: outer }
        | [] => m
      if let some value := value then modify (·.assign name value)
    return 0

/-! ## Reading -/

/-- The bytes of a line and whether each was taken from its meaning by a backslash, how many bytes of
the input the line takes, and whether it has a line end. -/
def takeLine (isRaw : Bool) : List UInt8 → List (UInt8 × Bool) × Nat × Bool
  | [] => ([], 0, false)
  | 10 :: _ => ([], 1, true)
  | [b] => if b == 92 && !isRaw then ([], 1, false) else ([(b, false)], 1, false)
  | b :: c :: rest =>
    if b == 92 && !isRaw then
      let (others, n, isEnded) := takeLine isRaw rest
      (if c == 10 then others else (c, true) :: others, n + 2, isEnded)
    else
      let (others, n, isEnded) := takeLine isRaw (c :: rest)
      ((b, false) :: others, n + 1, isEnded)

/-- A line split at certain signs into the values of a number of variables; the last gets all that
is left. -/
def splitLine (signs : List UInt8) : Nat → List (UInt8 × Bool) → List (List UInt8)
  | 0, _ => []
  | count + 1, line =>
    let isBlank := fun (b : UInt8 × Bool) =>
      !b.2 && signs.contains b.1 && (b.1 == 32 || b.1 == 9 || b.1 == 10)
    let isSign := fun (b : UInt8 × Bool) => !b.2 && signs.contains b.1
    let line := line.dropWhile isBlank
    let own := line.takeWhile fun b => !isSign b
    let behind := (line.drop own.length).dropWhile isBlank
    let behind := match behind with
      | b :: rest => if isSign b then rest.dropWhile isBlank else behind
      | [] => []
    if count = 0 then
      let all := if behind.isEmpty then own else (line.reverse.dropWhile isBlank).reverse
      [all.map (·.1)]
    else own.map (·.1) :: splitLine signs count behind

/-- Reads a line of the input into variables. -/
def readLine : Builtin := fun args => do
  let o := Options.read { valued := ['p', 't'] } args
  if let some (letter, _) := o.given.find? fun g => !"prt".toList.contains g.1 then
    if (← get).dialect = .plain then Act.refuse ("Illegal option -" ++ String.singleton letter)
  let m ← get
  let names := if o.operands.isEmpty && m.dialect = .large then ["REPLY"] else o.operands
  if names.isEmpty then Act.refuse "arg count"
  if (m.channel? 0).isNone then return 1
  let (line, count, isEnded) := takeLine (o.has 'r') m.input
  set (m.skip 0 count)
  let signs := bytesOf ((m.value? "IFS").getD " \t\n")
  let values := splitLine signs names.length line
  names.zipIdx.forM fun (name, place) => do
    checkName name true
    modify (·.assign name (stringOfBytes ((values[place]?).getD [])))
  return if isEnded then 0 else 1

/-- Reads the next option from the arguments of the shell, or from those that are given. -/
def nextOption : Builtin := fun args => do
  match args with
  | form :: name :: given =>
    let m ← get
    let words := if given.isEmpty then m.arguments else given
    let form := form.toList
    let (index, offset) := m.optionPlace
    let isSilent := form.head? == some ':'
    let finish := fun (index offset : Nat) (letter : Char) (status : Nat) => do
      modify fun m =>
        { (m.assign "OPTIND" (toString index)).assign name (String.singleton letter) with
          optionPlace := (index, offset) }
      return status
    let current := if index ≤ 1 || offset = 0 then []
      else ((words[index - 2]?).getD "").toList.drop offset
    let (letters, index, offset) := if current.isEmpty then
        (((words[index - 1]?).getD "").toList, index + 1, 0)
      else ('-' :: current, index, offset - 1)
    match letters with
    | '-' :: letter :: rest =>
      let next := offset + 2
      if letter == '-' && rest.isEmpty && offset = 0 && current.isEmpty then finish index 0 '?' 1
      else
        let place := form.findIdx (· == letter)
        if letter == ':' || place ≥ form.length then
          if isSilent then modify (·.assign "OPTARG" (String.singleton letter))
          else
            modify fun m => (m.complain ("Illegal option -" ++ String.singleton letter)).restore
              "OPTARG" none
          finish index (if rest.isEmpty then 0 else next) '?' 0
        else if form[place + 1]? != some ':' then
          modify (·.assign "OPTARG" "")
          finish index (if rest.isEmpty then 0 else next) letter 0
        else if !rest.isEmpty then
          modify (·.assign "OPTARG" (String.ofList rest))
          finish index 0 letter 0
        else
          match words[index - 1]? with
          | some value =>
            modify (·.assign "OPTARG" value)
            finish (index + 1) 0 letter 0
          | none =>
            if isSilent then
              modify (·.assign "OPTARG" (String.singleton letter))
              finish index 0 ':' 0
            else
              modify fun m => (m.complain ("No arg for -" ++ String.singleton letter ++
                " option")).restore "OPTARG" none
              finish index 0 '?' 0
    | _ => finish (index - 1) 0 '?' 1
  | _ => Act.refuse "Usage: getopts optstring var [arg]"

/-! ## Directories -/

/-- The names of a path without dots; two dots go up as the path is written. -/
def plainNames (path : String) : List String :=
  (Location.namesOf path).foldl (fun names name =>
    if isHere name then names else if name == ".." then names.dropLast else names ++ [name]) []

/-- Changes the directory at work: to that of the user without an argument, and to the last one with
a dash, which is then shown. -/
def changeDirectory : Builtin := fun args => do
  let m ← get
  let isPhysical := args.head? == some "-P"
  let args := args.dropWhile fun arg => ["-P", "-L", "--"].contains arg
  let (path, isShown) := match args with
    | [] => (m.value "HOME", false)
    | "-" :: _ => (m.value "OLDPWD", true)
    | path :: _ => (path, false)
  let path := if path.isEmpty then "." else path
  let refused := Act.refuse ("can't cd to " ++ path)
  if (m.reach? path).any Node.isDirectory then
    let whole := if Path.isAbsolute path.toList then path else m.here ++ "/" ++ path
    let way := Location.text (plainNames whole)
    match canonical? m.disk m.directory (if isPhysical then path else way) with
    | none => refused
    | some directory =>
      let shown := if isPhysical then directory.text else way
      let put := fun (name value : String) (m : Machine) =>
        m.bind name { m.binding name with value := some value, isExported := true }
      set (put "PWD" shown (put "OLDPWD" m.here { m with directory, way := some shown }))
      if isShown then modify (·.say (shown ++ "\n"))
      return 0
  else refused

/-! ## Signals and the end -/

/-- Sets the command for signals and for the end, takes it back, or shows what is set. -/
def setTrap : Builtin := fun args => do
  let args := if args.head? == some "--" then args.drop 1 else args
  match args with
  | [] =>
    modify fun m =>
      let rank := fun (name : String) => Signal.names.idxOf name
      let traps := m.traps.mergeSort fun a b => decide (rank a.1 ≤ rank b.1)
      m.say (lined (traps.map fun (name, command) =>
        "trap -- " ++ quotedValue command ++ " " ++ name))
    return 0
  | first :: rest =>
    let isReset := rest.isEmpty || (Signal.ofNumber? first).isSome
    let (command, names) := if isReset then (none, args)
      else (if first == "-" then none else some first, rest)
    names.foldlM (fun status text => do
      if status != 0 then return status
      match Signal.ofText? 0 text with
      | none =>
        modify (·.complain ("trap: " ++ text ++ ": bad trap"))
        return 1
      | some n =>
        modify fun m =>
          { m with
            traps := match command with
              | some command => Table.put (Signal.name n) command m.traps
              | none => Table.erase (Signal.name n) m.traps }
        return 0) 0

/-- Waits for the commands that have not been waited for. -/
def waitForCommands : Builtin := fun args => do
  modify fun m => { m with elapsedMs := Nat.max m.elapsedMs m.behindUntilMs }
  match args.getLast? with
  | none => return 0
  | some number =>
    let m ← get
    if number != behindNumber then return unknownStatus
    if let some what := m.behindSignal.bind Signal.description? then
      set ({ m with behindSignal := none }.complain what)
    return m.behindStatus

/-! ## Names for texts -/

/-- What is shown of a name and the text that it stands for. -/
def nicknameShown (name text : String) : String :=
  name ++ "=" ++ quotedValue text

/-- The place of a name among those that stand for texts. -/
def nicknamePlace (name : String) : Nat :=
  let codes := name.toUTF8.toList.map (·.toNat)
  (codes.foldl (· + ·) (16 * codes.headD 0)) % 39

/-- Lets names stand for texts, and shows what names stand for: all of them without arguments. -/
def setNicknames : Builtin := fun args => do
  if args.isEmpty then
    modify fun m =>
      let all := m.nicknames.mergeSort fun a b =>
        decide (nicknamePlace a.1 ≤ nicknamePlace b.1)
      m.say (lined (all.map fun (name, text) => nicknameShown name text))
  args.foldlM (fun status arg => do
    let (name, text) := splitAssignment arg
    let m ← get
    match text, Table.get? name m.nicknames with
    | some text, _ => set { m with nicknames := Table.put name text m.nicknames }; return status
    | none, some text => set (m.say (nicknameShown name text ++ "\n")); return status
    | none, none => set (m.complain ("alias: " ++ name ++ " not found")); return 1) 0

/-- Lets names stand for nothing but themselves again. -/
def unsetNicknames : Builtin := fun args => do
  if args.head? == some "-a" then
    modify fun m => { m with nicknames := [] }
    return 0
  args.foldlM (fun status name => do
    let m ← get
    if Table.has name m.nicknames then
      set { m with nicknames := Table.erase name m.nicknames }
      return status
    else
      set (m.complain ("unalias: " ++ name ++ " not found"))
      return 1) 0

/-! ## The mask of permissions -/

/-- Sets the mask, or shows it. -/
def setMask : Builtin := fun args => do
  let isInLetters := args.head? == some "-S"
  let m ← get
  match if isInLetters then args.drop 1 else args with
  | [] =>
    let digits := m.mask.digits
    modify (·.say ((if isInLetters then (Mode.all.without m.mask).shownByUser
      else String.ofList (List.replicate (4 - digits.length) '0') ++ digits) ++ "\n"))
    return 0
  | text :: _ =>
    let isNumber := text.toList.head?.any Char.isDigit
    let mask ← match isNumber, Mode.after? 0 false text (Mode.all.without m.mask) with
      | true, some mode => pure (mode % 0o1000)
      | false, some mode => pure (Mode.all.without mode)
      | true, none => Act.refuse ("Illegal number: " ++ text)
      | false, none => Act.refuse ("Illegal mode: " ++ text)
    set { m with mask }
    return 0

/-! ## All commands -/

/-- The command of the shell that is a tool. -/
def ofTool (tool : Tool) : Builtin := fun args =>
  Act.use (tool args)

/-- The commands of the shell that need no script to be run, by their names. -/
def builtins : List (String × Builtin) :=
  [(":", ofTool (answering 0)), ("true", ofTool (answering 0)), ("false", ofTool (answering 1)),
   ("exit", exitShell), ("return", returnFrom), ("break", leaveLoops .broken),
   ("continue", leaveLoops .continued), ("shift", shift), ("set", setShell),
   ("export", exportVariables), ("readonly", protectVariables), ("unset", unsetNames),
   ("local", localVariables), ("trap", setTrap), ("times", ofTool (repeating
     "0m0.000000s 0m0.000000s\n0m0.000000s 0m0.000000s")),
   ("alias", setNicknames), ("unalias", unsetNicknames),
   ("hash", ofTool (answering 0)), ("jobs", ofTool (answering 0)),
   ("ulimit", ofTool (repeating "unlimited")), ("umask", setMask),
   ("read", readLine), ("getopts", nextOption), ("cd", changeDirectory), ("chdir", changeDirectory),
   ("pwd", ofTool pwd), ("wait", waitForCommands), ("echo", ofTool echo),
   ("printf", ofTool printf), ("test", ofTool test), ("[", ofTool testInBrackets)]

/-- The commands of the shell that run scripts or other commands. -/
def runningBuiltins : List String :=
  [".", "command", "eval", "exec", "kill", "type"]

/-- Whether a command of the shell is special: to be refused is to leave the shell, and assignments
in front of it stay. -/
def isSpecial (name : String) : Bool :=
  specialNames.contains name || name == "local"

/-- Whether the arguments of a command may be assignments, which are not taken apart. -/
def takesAssignments (name : String) : Bool :=
  ["export", "readonly", "local"].contains name

/-- Whether a name is that of a command of the shell. -/
def isBuiltin (name : String) : Bool :=
  (builtins.lookup name).isSome || runningBuiltins.contains name

end ProjectCheck.Shell
