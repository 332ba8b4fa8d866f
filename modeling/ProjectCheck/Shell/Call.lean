import ProjectCheck.Shell.Figures
import ProjectCheck.Shell.Machine
import ProjectCheck.Shell.Sequence

/-!
# Signals

The signals by their numbers, and what the command that sends them is asked to send.
-/

namespace ProjectCheck.Shell

namespace Signal

/-- The names of signals, the first being the end of a shell, which counts as one. -/
def names : List String :=
  ["EXIT", "HUP", "INT", "QUIT", "ILL", "TRAP", "ABRT", "BUS", "FPE", "KILL", "USR1", "SEGV",
   "USR2", "PIPE", "ALRM", "TERM", "STKFLT", "CHLD", "CONT", "STOP", "TSTP", "TTIN", "TTOU", "URG",
   "XCPU", "XFSZ", "VTALRM", "PROF", "WINCH", "IO", "PWR", "SYS"]

/-- What is said of a command that a signal has ended. -/
def descriptions : List String :=
  ["", "Hangup", "Interrupt", "Quit", "Illegal instruction", "Trace/breakpoint trap", "Aborted",
   "Bus error", "Floating point exception", "Killed", "User defined signal 1",
   "Segmentation fault", "User defined signal 2", "Broken pipe", "Alarm clock", "Terminated",
   "Stack fault", "Child exited", "Continued", "Stopped (signal)", "Stopped",
   "Stopped (tty input)", "Stopped (tty output)", "Urgent I/O condition",
   "CPU time limit exceeded", "File size limit exceeded", "Virtual timer expired",
   "Profiling timer expired", "Window changed", "I/O possible", "Power failure",
   "Bad system call"]

/-- How many numbers there are for signals. -/
def numberLimit : Nat :=
  65

/-- The name of a signal. -/
def name (number : Nat) : String :=
  (names[number]?).getD (toString number)

/-- What is said of a command that a signal has ended; two signals are not spoken of. -/
def description? (number : Nat) : Option String :=
  if number = 2 || number = 13 then none
  else some ((descriptions[number]?).getD ("Real-time signal " ++ toString (number - 34)))

/-- The number that a text is, if it is one of a signal. -/
def ofNumber? (text : String) : Option Nat :=
  if !text.isEmpty && text.all Char.isDigit then text.toNat?.filter (· < numberLimit) else none

/-- The number of the signal that a text names, from a number on. -/
def ofText? (least : Nat) (text : String) : Option Nat :=
  let capital := String.ofList (text.toList.map Char.toUpper)
  match ofNumber? text with
  | some n => some n
  | none => (names.drop least).idxOf? capital |>.map (· + least)

/-- What a signal does for which no command is set. -/
inductive Effect where
  | none
  /-- The shell goes on no more, and does not end. -/
  | stop
  | kill
deriving Repr, DecidableEq

/-- What a signal does for which no command is set. -/
def effect (number : Nat) : Effect :=
  if [0, 17, 18, 23, 28].contains number then .none
  else if [19, 20, 21, 22].contains number then .stop
  else .kill

end Signal

/-- The number that an argument is. -/
def numberArgument (text : String) : Act Nat :=
  match text.toNat?.filter fun n => text.all Char.isDigit && n < 2147483648 with
  | some n => return n
  | none => Act.refuse ("Illegal number: " ++ text)

/-- What is asked for by the arguments of the command that sends signals. -/
inductive KillRequest where
  | send (signal : Nat) (targets : List String)
  | list (numbers : List String)
deriving Repr, DecidableEq

/-- What the command that sends signals can do. -/
def killUsage : String :=
  "Usage: kill [-s sigspec | -signum | -sigspec] [pid | job]... or\nkill -l [exitstatus]"

/-- Reads the arguments of the command that sends signals. -/
def readKill (args : List String) : Act KillRequest := do
  let named := fun (text : String) (targets : List String) => do
    match Signal.ofText? 1 text with
    | some n => if targets.isEmpty then Act.refuse killUsage else return .send n targets
    | none => Act.refuse ("invalid signal number or name: " ++ text)
  match args with
  | [] => Act.refuse killUsage
  | first :: rest =>
    match first.toList with
    | '-' :: text =>
      if let some n := Signal.ofText? 1 (String.ofList text) then
        if rest.isEmpty then Act.refuse killUsage else return .send n rest
      else
        match text with
        | ['l'] => return .list rest
        | ['s'] =>
          match rest with
          | name :: targets => named name targets
          | [] => Act.refuse "No arg for -s option"
        | 's' :: name => named (String.ofList name) rest
        | ['-'] => if rest.isEmpty then Act.refuse killUsage else return .send 15 rest
        | c :: _ => Act.refuse ("Illegal option -" ++ String.singleton c)
        | [] => return .send 15 args
    | _ => return .send 15 args

/-!
## Calls of commands by commands

What the arguments ask for of tools that run other commands: a shell, a command in another environment, one
within a time, and one that gives way to others.  The options of such a tool stand in front of the command,
whose own arguments are left as they are.
-/

open ProjectCheck.Number ProjectCheck.Text

/-! ## Shells -/

/-- What a shell is called with. -/
structure ShellCall where
  /-- The script is the first operand. -/
  hasScript : Bool := false
  /-- The script is the input. -/
  readsInput : Bool := false
  /-- Options with whether they are turned on. -/
  letters : List (Char × Bool) := []
  names : List (String × Bool) := []
  operands : List String := []
deriving Repr, DecidableEq

namespace ShellCall

/-- Reads the arguments of a shell. -/
def read : List String → ShellCall
  | [] => {}
  | arg :: rest =>
    match arg.toList with
    | ['-'] => { operands := rest }
    | ['-', '-'] => { operands := rest }
    | '-' :: '-' :: _ => read rest
    | sign :: letters =>
      if sign != '-' && sign != '+' then { operands := arg :: rest }
      else
        let isOn := sign == '-'
        let own := (letters.filter fun c => !"csoli".toList.contains c).map (·, isOn)
        let (names, call) := if letters.contains 'o' then
            match rest with
            | name :: rest => ([(name, isOn)], read rest)
            | [] => ([], {})
          else ([], read rest)
        { call with
          hasScript := call.hasScript || letters.contains 'c'
          readsInput := call.readsInput || letters.contains 's'
          letters := own ++ call.letters
          names := names ++ call.names }
    | [] => { operands := arg :: rest }

end ShellCall

/-! ## Tools that run a command -/

/-- Why a tool does not run its command: its status with what it says. -/
structure CallFault where
  status : Nat
  text : String
deriving Repr, DecidableEq

namespace CallFault

/-- The status of a tool that does not come to run its command. -/
def usualStatus : Nat :=
  125

/-- A fault that a tool speaks of in its name. -/
def of (tool what : String) : CallFault :=
  { status := usualStatus, text := tool ++ ": " ++ what }

/-- What is said of the use of a tool. -/
def hint (tool : String) : String :=
  "Try '" ++ tool ++ " --help' for more information."

/-- A fault in the use of a tool. -/
def ofUse (tool what : String) : CallFault :=
  of tool (what ++ "\n" ++ hint tool)

end CallFault

/-- The options in front of a command, with the words of the command. -/
def OptionForm.readCommand (form : OptionForm) (args : List String) :
    Except CallFault (Options × List String) :=
  let (options, words) := splitFromCommand form args
  let o := Options.read form options
  match o.fault with
  | some fault => .error ⟨form.faultStatus, form.complaint fault⟩
  | none => .ok (o, words)

/-- The number that a text is, perhaps with a sign. -/
def signedNumber? (text : String) : Option Int :=
  let s := text.toList.dropWhile Char.isWhitespace
  let digits := if s.head? == some '-' || s.head? == some '+' then s.drop 1 else s
  if digits.isEmpty || !digits.all isAsciiDigit then none
  else some (if s.head? == some '-' then -(asciiValue digits : Int) else asciiValue digits)

/-! ## Environments -/

/-- A command in another environment. -/
structure EnvironmentCall where
  isEmptied : Bool := false
  removed : List String := []
  given : List (String × String) := []
  directory : Option String := none
  /-- What is done is told first. -/
  isTold : Bool := false
  /-- Nothing ends the variables that are shown, in the place of line ends. -/
  isUnlined : Bool := false
  words : List String := []
deriving Repr, DecidableEq

namespace EnvironmentCall

/-- The options of the tool. -/
def form : OptionForm :=
  { tool := "env", plain := "iv0ABDL".toList, valued := ['u', 'C', 'S'], faultStatus := CallFault.usualStatus
    free := "ABD".toList
    long := [("ignore-environment", 'i'), ("null", '0'), ("unset", 'u'), ("chdir", 'C'), ("debug", 'v'),
      ("split-string", 'S'), ("default-signal", 'A'), ("ignore-signal", 'D'), ("block-signal", 'B'),
      ("list-signal-handling", 'L')] }

/-- A fault in a text that stands for several arguments. -/
def splitFault {α : Type} (what : String) : Except CallFault α :=
  .error (CallFault.of "env" what)

/-- The characters that a letter behind a backslash stands for. -/
def splitEscapes : List (Char × Char) :=
  [('f', '\x0c'), ('n', '\n'), ('r', '\r'), ('t', '\t'), ('v', '\x0b'), ('"', '"'), ('#', '#'), ('$', '$'),
    ('\'', '\''), ('\\', '\\')]

/-- The arguments that a text stands for, `word` being the one that has begun, in reverse order, and `quote` the
quote that is open.  Nothing behind a sign for a remark counts. -/
def splitFrom (valueOf : String → Option String) (fuel : Nat) (quote : Option Char)
    (word : Option (List Char)) (s : List Char) : Except CallFault (List String) :=
  match fuel with
  | 0 => .ok []
  | fuel + 1 =>
    let go := splitFrom valueOf fuel
    let closed := (word.map fun w => String.ofList w.reverse).toList
    let add := fun (c : Char) (rest : List Char) => go quote (some (c :: word.getD [])) rest
    match s with
    | [] => if quote.isSome then splitFault "no terminating quote in -S string" else .ok closed
    | '\\' :: rest =>
      match rest with
      | [] => if quote == some '\'' then add '\\' [] else splitFault "invalid backslash at end of string in -S"
      | c :: rest =>
        if quote == some '\'' then
          if c == '\\' || c == '\'' then add c rest else add '\\' (c :: rest)
        else if c == '_' then
          if quote.isSome then add ' ' rest else (go none none rest).map (closed ++ ·)
        else if c == 'c' then
          if quote.isSome then splitFault "'\\c' must not appear in double-quoted -S string" else .ok closed
        else
          match splitEscapes.lookup c with
          | some d => add d rest
          | none => splitFault ("invalid sequence '\\" ++ String.singleton c ++ "' in -S")
    | c :: rest =>
      let isBlank := " \t\n\x0b\x0c\r".toList.contains c
      if quote == some c then go none word rest
      else if quote.isNone && (c == '"' || c == '\'') then go (some c) (some (word.getD [])) rest
      else if quote.isNone && isBlank then (go none none rest).map (closed ++ ·)
      else if quote.isNone && c == '#' && word.isNone then .ok closed
      else if quote != some '\'' && c == '$' then
        match rest with
        | '\x7b' :: behind =>
          let name := behind.takeWhile fun c => c.isAlphanum || c == '_'
          match behind.drop name.length with
          | '\x7d' :: rest =>
            match valueOf (String.ofList name) with
            | some value => go quote (some (value.toList.reverse ++ word.getD [])) rest
            | none => go quote word rest
          | _ => unknown s
        | _ => unknown s
      else add c rest
where
  /-- The fault of a sign for a variable that is none. -/
  unknown (s : List Char) : Except CallFault (List String) :=
    splitFault ("only $\x7bVARNAME\x7d expansion is supported, error at: " ++ String.ofList s)

/-- The arguments with those in the place of the first one that stands for several. -/
def unfolded (valueOf : String → Option String) : List String → Except CallFault (List String)
  | [] => .ok []
  | arg :: rest =>
    let split := fun (letters : List Char) (text : String) (rest : List String) =>
      (splitFrom valueOf (text.length + 1) none none text.toList).map fun words =>
        (if letters.isEmpty then [] else [String.ofList ('-' :: letters)]) ++ words ++ rest
    match arg.toList, rest with
    | '-' :: '-' :: _, rest =>
      match Text.afterPrefix? "--split-string=".toList arg.toList with
      | some text => split [] (String.ofList text) rest
      | none => .ok (arg :: rest)
    | '-' :: letters, rest =>
      let plain := letters.takeWhile form.plain.contains
      match letters.drop plain.length, rest with
      | ['S'], text :: rest => split plain text rest
      | 'S' :: text, rest => if text.isEmpty then .ok (arg :: rest) else split plain (String.ofList text) rest
      | [], rest => (unfolded valueOf rest).map (arg :: ·)
      | _, rest => .ok (arg :: rest)
    | _, rest => .ok (arg :: rest)

/-- A text as the name and the value of a variable. -/
def assignment? (text : String) : Option (String × String) :=
  let name := text.toList.takeWhile (· != '=')
  if name.length < text.length then
    some (String.ofList name, String.ofList (text.toList.drop (name.length + 1)))
  else none

/-- Reads the arguments of the tool that changes the environment. -/
def read (valueOf : String → Option String) (args : List String) : Except CallFault EnvironmentCall := do
  let (o, words) ← form.readCommand (← unfolded valueOf args)
  let isEmptied := o.has 'i' || words.head? == some "-"
  let words := if words.head? == some "-" then words.drop 1 else words
  let removed := o.values 'u'
  if !isEmptied then
    if let some name := removed.find? fun name => name.isEmpty || name.toList.contains '=' then
      throw (CallFault.of "env" ("cannot unset " ++ quoted name ++ ": Invalid argument"))
  let given := (words.takeWhile fun word => (assignment? word).isSome).filterMap assignment?
  let words := words.drop given.length
  if o.has '0' && !words.isEmpty then
    throw (CallFault.ofUse "env" "cannot specify --null (-0) with command")
  if o.has 'C' && words.isEmpty then
    throw (CallFault.ofUse "env" "must specify command with --chdir (-C)")
  return { isEmptied, removed := if isEmptied then [] else removed
           given, directory := o.value? 'C', isTold := o.has 'v', isUnlined := o.has '0', words }

/-- The exported variables of an environment. -/
def bindings (call : EnvironmentCall) (bindings : Table String Binding) : Table String Binding :=
  let kept := bindings.filter fun (name, b) =>
    b.isExported && !call.isEmptied && !call.removed.contains name
  call.given.foldl (fun bindings (name, value) =>
    Table.put name { value := some value, isExported := true } bindings) kept

/-- What is told of the changes of the environment. -/
def changesTold (call : EnvironmentCall) : List String :=
  (if call.isEmptied then ["cleaning environ"] else call.removed.map ("unset:    " ++ ·)) ++
    call.given.map fun (name, value) => "setenv:   " ++ name ++ "=" ++ value

/-- What is told of the command. -/
def commandTold (call : EnvironmentCall) : List String :=
  ("executing: " ++ call.words.headD "") :: (call.words.zipIdx.map fun (word, i) =>
    "   arg[" ++ toString i ++ "]= " ++ quoted word)

end EnvironmentCall

/-! ## Times -/

/-- A command within a time. -/
structure TimedCall where
  /-- The time, unless it is without end. -/
  limitMs : Option Nat
  /-- The number of the signal that ends the command. -/
  signal : Nat := 15
  /-- How long the command may go on behind a signal. -/
  graceMs : Option Nat := none
  /-- The status is that of the command. -/
  keepsStatus : Bool := false
  /-- The signal reaches the command alone. -/
  isForeground : Bool := false
  isTold : Bool := false
  words : List String := []
deriving Repr, DecidableEq

namespace TimedCall

/-- The options of the tool. -/
def form : OptionForm :=
  { tool := "timeout", plain := "vFP".toList, valued := ['k', 's'], faultStatus := CallFault.usualStatus
    long := [("kill-after", 'k'), ("signal", 's'), ("verbose", 'v'), ("foreground", 'F'),
      ("preserve-status", 'P')] }

/-- The signal that a text names, perhaps with the letters that all names may begin with. -/
def signal? (text : String) : Option Nat :=
  let capital := text.toList.map Char.toUpper
  if text.isEmpty then none
  else Signal.ofText? 0 (String.ofList ((Text.afterPrefix? "SIG".toList capital).getD capital))

/-- A time that a text asks for; none if it is without end. -/
def time (text : String) : Except CallFault (Option Nat) :=
  match waitingTime? text with
  | some time => .ok time
  | none => .error (CallFault.ofUse "timeout" ("invalid time interval " ++ quoted text))

/-- Reads the arguments of the tool that bounds the time of a command. -/
def read (args : List String) : Except CallFault TimedCall := do
  let (o, words) ← form.readCommand args
  let grace ← match o.value? 'k' with
    | some text => time text
    | none => pure none
  let signal ← match o.value? 's' with
    | some text =>
      match signal? text with
      | some signal => pure signal
      | none => throw (CallFault.ofUse "timeout" (quoted text ++ ": invalid signal"))
    | none => pure 15
  match words with
  | limit :: words =>
    if words.isEmpty then throw ⟨CallFault.usualStatus, CallFault.hint "timeout"⟩
    return { limitMs := (← time limit).filter (0 < ·), signal, graceMs := grace.filter (0 < ·)
             keepsStatus := o.has 'P', isForeground := o.has 'F', isTold := o.has 'v', words }
  | [] => throw ⟨CallFault.usualStatus, CallFault.hint "timeout"⟩

/-- What is told of a signal that is sent. -/
def told (call : TimedCall) (signal : Nat) : String :=
  "timeout: sending signal " ++ Signal.name signal ++ " to command " ++ quoted (call.words.headD "")

/-- The signals that are sent one after the other, each with the time until then, up to one that ends the
command. -/
def signals (call : TimedCall) : List (Nat × Nat) :=
  match call.limitMs with
  | none => []
  | some limit =>
    let ends := Signal.effect call.signal != .none && call.signal != 0
    (call.signal, limit) :: match call.graceMs with
      | some grace => if ends then [] else [(9, limit + grace)]
      | none => []

/-- When the command is ended, and by which signal; nothing if no signal ends it. -/
def end? (call : TimedCall) : Option (Nat × Nat) :=
  call.signals.getLast?.filter fun (signal, _) => Signal.effect signal != .none && signal != 0

end TimedCall

/-! ## Commands that give way -/

/-- Reads the arguments of the tool that lets a command give way to others, `adjustment` being what was asked
for so far: what is asked for, and the words of the command. -/
def readPriority (adjustment : Option String) : List String → Except CallFault (Option String × List String)
  | [] => .ok (adjustment, [])
  | arg :: rest =>
    let form : OptionForm :=
      { tool := "nice", valued := ['n'], long := [("adjustment", 'n')], faultStatus := CallFault.usualStatus }
    let isNumber := fun (s : List Char) =>
      (s.drop (if s.head? == some '-' || s.head? == some '+' then 1 else 0)).head?.any isAsciiDigit
    match arg.toList, rest with
    | ['-'], rest => .ok (adjustment, arg :: rest)
    | ['-', '-'], rest => .ok (adjustment, rest)
    | '-' :: number, rest =>
      if isNumber number then readPriority (some (String.ofList number)) rest
      else
        match form.takesNext arg, rest with
        | true, value :: rest => readPriority (some value) rest
        | _, rest => do
          let (o, _) ← form.readCommand [arg]
          readPriority (o.value? 'n' <|> adjustment) rest
    | _, rest => .ok (adjustment, arg :: rest)

/-- The words of the command that gives way to others, if there are any. -/
def readGivingWay (args : List String) : Except CallFault (List String) := do
  let (adjustment, words) ← readPriority none args
  if let some text := adjustment.filter fun text => (signedNumber? text).isNone then
    throw (CallFault.of "nice" ("invalid adjustment " ++ quoted text))
  if words.isEmpty && adjustment.isSome then
    throw (CallFault.ofUse "nice" "a command must be given with an adjustment")
  return words

/-- The words of a command that does not end with the one who called it. -/
def readLasting (args : List String) : Except CallFault (List String) := do
  let (_, words) ← OptionForm.readCommand { tool := "nohup", faultStatus := CallFault.usualStatus } args
  if words.isEmpty then throw (CallFault.ofUse "nohup" "missing operand")
  return words

/-- The words of a command whose streams keep bytes back in another way. -/
def readBuffered (args : List String) : Except CallFault (List String) := do
  let (o, words) ← OptionForm.readCommand
    { tool := "stdbuf", valued := ['i', 'o', 'e'], faultStatus := CallFault.usualStatus
      long := [("input", 'i'), ("output", 'o'), ("error", 'e')] } args
  o.given.forM fun (stream, text) => do
    if text == "L" then
      if stream == 'i' then throw (CallFault.ofUse "stdbuf" "line buffering stdin is meaningless")
    else if (readCount sizeLetters text).toOption.isNone || !(text.toList.head?.any isAsciiDigit) then
      throw (CallFault.of "stdbuf" ("invalid mode " ++ quoted text))
  if words.isEmpty then throw (CallFault.ofUse "stdbuf" "missing operand")
  if o.given.isEmpty then throw (CallFault.ofUse "stdbuf" "you must specify a buffering mode option")
  return words

end ProjectCheck.Shell
