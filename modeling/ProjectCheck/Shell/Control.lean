import ProjectCheck.Shell.Builtin

/-!
# Control

How acts are put together: commands one after the other, loops, pipes, copies of the shell and whole
shells.  What is run in them is given from outside.
-/

namespace ProjectCheck.Shell

open ProjectCheck.Text

/-- How a command stands among the others. -/
structure Standing where
  /-- The shell has nothing left to do behind the command. -/
  isLast : Bool := false
  /-- It is asked whether the command succeeds, so the shell does not end if it fails. -/
  isTested : Bool := false
deriving Repr, DecidableEq

/-! ## Texts of commands -/

/-- Reads commands one after the other and runs each before the next is read.  A command is the last
if the text ends with it. -/
def eachCommand (run : (isLast : Bool) → Script → Act Nat) :
    Nat → List Placed → (status : Nat) → Act Nat
  | 0, _, status => return status
  | fuel + 1, tokens, status => do
    if isAtEnd tokens then return status
    let fault := fun (line : Nat) (complaint : Complaint) => do
      modify fun m => { m with line }
      Act.fail ("Syntax error: " ++ complaint.message)
    let m ← get
    match readCommand (if m.dialect = .plain then m.nicknames else []) tokens with
    | .error found => fault found.line found.complaint
    | .ok (script, rest) =>
      let used := tokens.take (tokens.length - rest.length)
      match innerFault? used, script with
      | some found, _ => fault found.line found.complaint
      | none, none => eachCommand run fuel rest status
      | none, some script =>
        let endsLine := (used.getLast?.bind (·.token)) == some (.operator .newline)
        eachCommand run fuel rest (← run (isAtEnd rest && !endsLine) script)

/-- Reads and runs the commands of a text. -/
def commandsOf (run : (isLast : Bool) → Script → Act Nat) (text : String) : Act Nat :=
  let tokens := placedTokens text
  eachCommand run (text.length + tokens.length + 1) tokens 0

/-! ## Loops -/

/-- How a turn of a loop ends for the loop. -/
inductive TurnEnd where
  | done (status : Nat)
  | left
deriving Repr, DecidableEq

/-- Makes a turn of a loop; what breaks off several loops goes on to the loop around. -/
def turnOf (act : Act Nat) : Act TurnEnd := do
  match ← act.settle with
  | .ok status => return .done status
  | .error (.broken loops) => if loops ≤ 1 then return .left else throw (.broken (loops - 1))
  | .error (.continued loops) =>
    if loops ≤ 1 then return .done 0 else throw (.continued (loops - 1))
  | .error ending => throw ending

/-- Does something that counts as a loop. -/
def inLoop (act : Act Nat) : Act Nat := do
  let loops := (← get).loops
  modify fun m => { m with loops := loops + 1 }
  act.andFinally fun m => { m with loops }

/-- How often a loop may turn. -/
def turnLimit : Nat :=
  100000

/-- Makes turns as long as a test succeeds, or until it does.  The status is that of the last
turn. -/
def loopWhile (isUntil : Bool) (test body : Act Nat) : Act Nat :=
  inLoop <| Act.iterate (fun status => do
    match ← turnOf test with
    | .left => return .inr status
    | .done tested =>
      if (tested = 0) == isUntil then return .inr status
      else
        match ← turnOf body with
        | .left => return .inr 0
        | .done status => return .inl status) turnLimit 0

/-- Makes a turn for each value. -/
def loopOver (turn : String → Act Nat) : List String → (status : Nat) → Act Nat
  | [], status => return status
  | value :: rest, _ => do
    match ← turnOf (turn value) with
    | .left => return 0
    | .done status => loopOver turn rest status

/-- The script of the first case of which a pattern fits a text. -/
def chosen (inner : String → Act String) (subject : String) :
    List (List Word × Option Script) → Act (Option Script)
  | [] => return none
  | (patterns, body) :: rest => do
    let fits ← patterns.anyM fun pattern => do
      return (Pattern.ofPiece (← expandPiece inner pattern)).fits subject.toList
    if fits then return body else chosen inner subject rest

/-! ## Copies of the shell -/

/-- A copy of the shell: it keeps what signals do only where that is nothing. -/
def Machine.copied (m : Machine) : Machine :=
  { m with depth := m.depth + 1, traps := m.traps.filter (·.2.isEmpty) }

/-- Whether commands are set for signals or the end. -/
def Machine.hasTraps (m : Machine) : Bool :=
  m.traps.any fun t => !t.2.isEmpty

/-- Does something as a whole shell: what leaves the shell ends here, and before the end comes the
command that is set for it. -/
def wholly (runTrap : String → Act Nat) (act : Act Nat) : Act Nat := do
  let status ← match ← act.settle with
    | .ok status => pure (status % 256)
    | .error (.exited status) => pure (status % 256)
    | .error (.returned status) => pure (status % 256)
    | .error .refused => pure 2
    | .error (.broken _) => pure 0
    | .error (.continued _) => pure 0
    | .error ending => throw ending
  match Table.get? "EXIT" (← get).traps with
  | none => return status
  | some command =>
    modify fun m =>
      { m with
        traps := Table.erase "EXIT" m.traps, status, trapStatus := some status, loops := 0 }
    match ← (runTrap command).settle with
    | .ok _ => return status
    | .error (.exited status) => return status % 256
    | .error (.killed signal) => throw (.killed signal)
    | .error .overdue => throw .overdue
    | .error _ => return status

/-- Waits for something that runs beside the shell.  If a signal has ended it, the shell says so;
but if nothing is left to do for the shell, it is the shell that has ended. -/
def awaited (isShell : Bool) (act : Act Nat) : Act Nat := do
  match ← act.settle with
  | .error (.killed signal) =>
    if isShell then throw (.killed signal)
    if let some what := Signal.description? signal then modify (·.complain what)
    return 128 + signal
  | result => Act.resume result

/-- Does something with a new channel to print to, and gives what was printed. -/
def gathering (enter : Machine → Machine) (act : Act Nat) : Act (Nat × List UInt8) := do
  let number := (← get).channels.size
  let status ← awaited false
    (Act.inCopy (fun m => enter (m.openChannel 1 { backing := .gathered [] })) act)
  let bytes := (← get).gatheredAt number
  modify fun m => m.setChannel number { backing := .nowhere }
  return (status, bytes)

/-- Runs commands joined by pipes: what each prints is the input of the next, and all take their
time together. -/
def piped (run : Script → Act Nat) (startMs endMs : Nat) (input : Option (List UInt8)) :
    List Script → Act (List Nat)
  | [] => return []
  | stage :: rest => do
    let enter := fun (m : Machine) =>
      let m := { m.copied with elapsedMs := startMs }
      match input with
      | some bytes => m.openChannel 0 { backing := .text bytes }
      | none => m
    if rest.isEmpty then
      let status ← awaited false (Act.inCopy enter (run stage))
      modify fun m => { m with elapsedMs := Nat.max endMs m.elapsedMs }
      return [status]
    else
      let (status, bytes) ← gathering enter (run stage)
      let others ← piped run startMs (Nat.max endMs (← get).elapsedMs) (some bytes) rest
      return status :: others

/-- The status of commands joined by pipes: that of the last, or, if the shell is asked for it, the
last that is not zero. -/
def statusOfPipe (m : Machine) (statuses : List Nat) : Nat :=
  let last := (statuses.getLast?).getD 0
  if m.isOn pipeFailure then (statuses.reverse.find? (· != 0)).getD 0 else last

end ProjectCheck.Shell
