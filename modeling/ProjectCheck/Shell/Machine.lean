import ProjectCheck.Disk.Walk
import ProjectCheck.Shell.Mode
import ProjectCheck.Shell.Script
import ProjectCheck.Text.Utf8

/-!
# Machines

What the commands of a shell work on: a disk with a directory to work in, variables, and streams.

A stream is the number of a channel, and a channel goes to the world outside, to a file, or to a text
that another command has printed.  Several streams may share a channel and then share the place up to
which it has been read or written.  What is printed for the outside is kept with the stream and the
time that it was printed on: commands that run beside each other take turns as time passes.

No command waits.  A machine counts the time that its commands would take.
-/

namespace ProjectCheck.Shell

open ProjectCheck.Disk

/-- A stream of the world outside to print on. -/
inductive Stream where
  | output
  | errors
deriving Repr, DecidableEq

/-- Which shell reads a script. -/
inductive Dialect where
  /-- The plain shell, whose echo knows escapes. -/
  | plain
  /-- The larger shell, whose echo knows none. -/
  | large
deriving Repr, DecidableEq

/-- How the running of commands is broken off. -/
inductive Ending where
  /-- The shell is left. -/
  | exited (status : Nat)
  | killed (signal : Nat)
  /-- The function at work is left. -/
  | returned (status : Nat)
  /-- So many loops are left. -/
  | broken (loops : Nat)
  /-- So many loops but one are left, and that one goes on with its next turn. -/
  | continued (loops : Nat)
  /-- A command of the shell is left that cannot do what it is asked for. -/
  | refused
  /-- All that runs within a time is left when the time is over. -/
  | overdue
deriving Repr, DecidableEq

/-- Bytes that were printed at a time. -/
structure Chunk where
  timeMs : Nat
  bytes : List UInt8
deriving Repr, DecidableEq

/-- Bytes in the order of their times, from chunks of which the latest that came stands first. -/
def Chunk.inOrder (chunks : List Chunk) : List UInt8 :=
  (chunks.reverse.mergeSort fun a b => decide (a.timeMs ≤ b.timeMs)).flatMap (·.bytes)

/-- Where a channel goes. -/
inductive Backing where
  | outside (stream : Stream)
  | file (location : Location)
  /-- To what is left of a text. -/
  | text (bytes : List UInt8)
  /-- To a text that is being printed, its latest part first. -/
  | gathered (parts : List Chunk)
  | nowhere
deriving Repr

/-- A channel, and how far a file has been read or written. -/
structure Channel where
  backing : Backing
  position : Nat := 0
  appends : Bool := false
deriving Repr

/-- What is known under the name of a variable. -/
structure Binding where
  value : Option String
  isExported : Bool := false
  isReadOnly : Bool := false
deriving Repr, DecidableEq

/-- What commands work on. -/
structure Machine where
  disk : Node
  directory : Location
  /-- The path by which the directory was reached, if that is not its location. -/
  way : Option String := none
  /-- The permissions of what has others than are usual. -/
  modes : Table Location Mode := []
  dialect : Dialect := .plain
  /-- What the shell calls itself. -/
  name : String := "/bin/sh"
  /-- The line of the command at work. -/
  line : Nat := 1
  /-- The command of the shell at work, in the name of which the shell speaks. -/
  speaker : Option String := none
  bindings : Table String Binding := []
  arguments : List String := []
  functions : Table String Script := []
  /-- The texts that names stand for where commands begin. -/
  nicknames : Table String String := []
  /-- The permissions that new files do not get. -/
  mask : Mode := Mode.usualMask
  /-- What the variables were that the functions at work have for themselves, the innermost function
  first. -/
  frames : List (Table String (Option Binding)) := []
  /-- How many loops are at work. -/
  loops : Nat := 0
  status : Nat := 0
  /-- The status of the last command inside a word of the command at work. -/
  innerStatus : Nat := 0
  /-- The status of the last command that was not waited for. -/
  behindStatus : Nat := 0
  /-- The signal that has ended that command, as long as the shell has not said so. -/
  behindSignal : Option Nat := none
  options : List Char := []
  /-- The commands for signals, and for the end under `EXIT`. -/
  traps : Table String String := []
  /-- The status before the command for a signal or for the end was begun. -/
  trapStatus : Option Nat := none
  /-- How many groups are at work around the commands, each of them a copy of the shell. -/
  depth : Nat := 0
  /-- The signal that a group has sent to the shell around it. -/
  doom : Option Nat := none
  /-- When the commands end that are not waited for. -/
  behindUntilMs : Nat := 0
  /-- When those of them end that print for the outside. -/
  heldUntilMs : Nat := 0
  /-- When what is running has to end. -/
  deadlineMs : Option Nat := none
  /-- The argument, counted from one, and the letter in the one before it, with which the reading of
  options goes on. -/
  optionPlace : Nat × Nat := (1, 0)
  /-- The streams with the numbers of their channels. -/
  streams : Table Nat Nat := [(0, 0), (1, 1), (2, 2)]
  channels : Array Channel :=
    #[{ backing := .nowhere }, { backing := .outside .output }, { backing := .outside .errors }]
  /-- What was printed for the outside, the latest first. -/
  printed : List (Stream × Chunk) := []
  elapsedMs : Nat := 0
deriving Repr

namespace Machine

/-! ## Channels -/

/-- The number of the channel of a stream, if the stream is open. -/
def channelOf? (m : Machine) (stream : Nat) : Option Nat :=
  Table.get? stream m.streams

/-- The channel of a stream, if the stream is open. -/
def channel? (m : Machine) (stream : Nat) : Option Channel :=
  (m.channelOf? stream).bind (m.channels[·]?)

/-- Sends a stream to a new channel. -/
def openChannel (m : Machine) (stream : Nat) (channel : Channel) : Machine :=
  { m with
    streams := Table.put stream m.channels.size m.streams
    channels := m.channels.push channel }

/-- Puts another channel in the place of one. -/
def setChannel (m : Machine) (number : Nat) (channel : Channel) : Machine :=
  { m with channels := m.channels.setIfInBounds number channel }

/-- The content of the file at a location, if there is one. -/
def contentAt? (m : Machine) (location : Location) : Option (List UInt8) :=
  (m.disk.at? location).bind Node.content?

/-- The permissions that something new gets. -/
def newMode (node : Node) (mask : Mode) : Mode :=
  match node with
  | .directory _ => Mode.ofDirectory.without mask
  | .link _ => Mode.all
  | .file _ => Mode.ofFile.without mask

/-- The permissions of what stands at a location. -/
def modeAt (m : Machine) (location : Location) (node : Node) : Mode :=
  (Table.get? location m.modes).getD (newMode node Mode.usualMask)

/-- Gives what stands at a location permissions. -/
def setMode (m : Machine) (location : Location) (mode : Mode) : Machine :=
  { m with modes := Table.put location mode m.modes }

/-- Puts something at a location. -/
def place (m : Machine) (location : Location) (node : Node) : Machine :=
  let isNew := m.mask != Mode.usualMask && (m.disk.at? location).isNone
  let m := { m with disk := Node.put node location m.disk }
  if isNew then m.setMode location (newMode node m.mask) else m

/-- Removes what stands at a location. -/
def remove (m : Machine) (location : Location) : Machine :=
  { m with
    disk := m.disk.remove location
    modes := m.modes.filter fun (l, _) => !l.isWithin location }

/-- Prints bytes on a stream; what is printed on a closed stream is lost. -/
def write (m : Machine) (stream : Nat) (bytes : List UInt8) : Machine :=
  match m.channelOf? stream, m.channel? stream with
  | some number, some channel =>
    match channel.backing with
    | .outside s => { m with printed := (s, ⟨m.elapsedMs, bytes⟩) :: m.printed }
    | .gathered parts =>
      m.setChannel number
        { channel with backing := .gathered (⟨m.elapsedMs, bytes⟩ :: parts) }
    | .file location =>
      match m.contentAt? location with
      | none => m
      | some content =>
        let position := if channel.appends then content.length else channel.position
        let padding := List.replicate (position - content.length) 0
        let whole := content.take position ++ padding ++ bytes ++
          content.drop (position + bytes.length)
        (m.place location (.file whole)).setChannel number
          { channel with position := position + bytes.length }
    | _ => m
  | _, _ => m

/-- What has been printed to a channel that gathers it. -/
def gatheredAt (m : Machine) (number : Nat) : List UInt8 :=
  match m.channels[number]? with
  | some { backing := .gathered parts, .. } => Chunk.inOrder parts
  | _ => []

/-- What is left to read on a stream, or why it cannot be read. -/
def unread (m : Machine) (stream : Nat) : Except Obstruction (List UInt8) :=
  match m.channel? stream with
  | none => .error .closedStream
  | some channel =>
    match channel.backing with
    | .text bytes => .ok bytes
    | .file location =>
      match m.disk.at? location with
      | some (.file content) => .ok (content.drop channel.position)
      | some (.directory _) => .error .isDirectory
      | _ => .ok []
    | _ => .ok []

/-- Goes past bytes that have been read on a stream. -/
def skip (m : Machine) (stream : Nat) (count : Nat) : Machine :=
  match m.channelOf? stream, m.channel? stream with
  | some number, some channel =>
    m.setChannel number
      (match channel.backing with
        | .text bytes => { channel with backing := .text (bytes.drop count) }
        | _ => { channel with position := channel.position + count })
  | _, _ => m

/-- What is left of the input. -/
def input (m : Machine) : List UInt8 :=
  (m.unread 0).toOption.getD []

/-- Goes past all of the input. -/
def withoutInput (m : Machine) : Machine :=
  m.skip 0 m.input.length

/-! ## Printing -/

/-- Prints bytes. -/
def print (m : Machine) (bytes : List UInt8) : Machine :=
  m.write 1 bytes

/-- Prints a text. -/
def say (m : Machine) (s : String) : Machine :=
  m.print s.toUTF8.toList

/-- Prints a complaint on a line of its own. -/
def complain (m : Machine) (s : String) : Machine :=
  m.write 2 (s ++ "\n").toUTF8.toList

/-- What a shell says is said in its name, with the line that it is about. -/
def complainAsShell (m : Machine) (s : String) : Machine :=
  m.complain ((match m.dialect with
    | .plain => m.name ++ ": "
    | .large => m.name ++ ": line ") ++ toString m.line ++ ": " ++
    (m.speaker.elim "" (· ++ ": ")) ++ s)

/-- All that was printed for the outside on a stream. -/
def printedOn (m : Machine) (stream : Stream) : List UInt8 :=
  Chunk.inOrder ((m.printed.filter (·.1 == stream)).map (·.2))

/-! ## Variables -/

/-- The value of a variable, if it has one. -/
def value? (m : Machine) (name : String) : Option String :=
  (Table.get? name m.bindings).bind (·.value)

/-- The value of a variable, empty if it has none. -/
def value (m : Machine) (name : String) : String :=
  (m.value? name).getD ""

/-- What is known under a name. -/
def binding (m : Machine) (name : String) : Binding :=
  (Table.get? name m.bindings).getD { value := none }

/-- Whether a variable cannot be changed. -/
def isReadOnly (m : Machine) (name : String) : Bool :=
  (m.binding name).isReadOnly

/-- Whether an option of the shell is on. -/
def isOn (m : Machine) (option : Char) : Bool :=
  m.options.contains option

/-- Says what is known under a name. -/
def bind (m : Machine) (name : String) (binding : Binding) : Machine :=
  { m with bindings := Table.put name binding m.bindings }

/-- Gives a variable a value.  To give one to the number of the next option begins the reading of
options anew. -/
def assign (m : Machine) (name value : String) : Machine :=
  let old := m.binding name
  let m := m.bind name { old with value := some value, isExported := old.isExported || m.isOn 'a' }
  if name == "OPTIND" then { m with optionPlace := (value.toNat?.getD 1, 0) } else m

/-- Puts back what was known under a name. -/
def restore (m : Machine) (name : String) (old : Option Binding) : Machine :=
  match old with
  | some binding => m.bind name binding
  | none => { m with bindings := Table.erase name m.bindings }

/-! ## Places and time -/

/-- What stands where a path leads, or why it leads nowhere. -/
def reach (m : Machine) (path : String) : Except Obstruction Node :=
  Disk.reach m.disk m.directory path

/-- What stands where a path leads. -/
def reach? (m : Machine) (path : String) : Option Node :=
  (m.reach path).toOption

/-- Whether a path leads to a program. -/
def isProgram (m : Machine) (path : String) : Bool :=
  (canonical? m.disk m.directory path).any fun location =>
    (m.disk.at? location).any fun node => (m.modeAt location node).isProgram

/-- The path of the directory at work. -/
def here (m : Machine) : String :=
  m.way.getD m.directory.text

/-- Waits. -/
def wait (m : Machine) (ms : Nat) : Machine :=
  { m with elapsedMs := m.elapsedMs + ms }

/-- A machine after another shell has worked in its world: the disk, the channels and what was
printed are as that shell has left them. -/
def after (m inner : Machine) : Machine :=
  { m with
    disk := inner.disk, modes := inner.modes, channels := inner.channels
    printed := inner.printed, doom := inner.doom <|> m.doom, elapsedMs := inner.elapsedMs
    heldUntilMs := inner.heldUntilMs }

/-- The directories where a shell looks for commands if it is not told of others. -/
def commandDirectories : String :=
  "/usr/local/sbin:/usr/local/bin:/usr/sbin:/usr/bin:/sbin:/bin"

/-- A machine for a shell that begins in the world of another: it knows the exported variables. -/
def forShell (m : Machine) (dialect : Dialect) (name : String) (arguments : List String) :
    Machine :=
  { m with
    dialect, name, arguments
    line := 1, speaker := none, functions := [], nicknames := [], frames := [], loops := 0, status := 0
    options := [], trapStatus := none, depth := 0, doom := none, behindUntilMs := 0, optionPlace := (1, 0)
    traps := m.traps.filter fun t => t.2.isEmpty
    bindings :=
      let exported := (m.bindings.filter fun b => b.2.isExported).map fun (name, b) =>
        (name, { b with isReadOnly := false })
      let withPath := if (Table.get? "PATH" exported).isSome then exported
        else Table.put "PATH" { value := some commandDirectories } exported
      Table.put "PWD" { value := some m.here, isExported := true }
        (Table.put "IFS" { value := some " \t\n" } withPath) }

end Machine

/-- A command that a machine knows: with arguments it gives a status and leaves a machine. -/
abbrev Tool := List String → Machine → Nat × Machine

/-! ## Acts -/

/-- What is done on a machine.  It may be broken off, and it may come to no end. -/
abbrev Act :=
  ExceptT Ending (StateT Machine Option)

namespace Act

/-- Comes to no end. -/
def endless {α : Type} : Act α :=
  ExceptT.mk fun _ => none

/-- Leaves the shell with a complaint. -/
def fail {α : Type} (what : String) : Act α := do
  modify (·.complainAsShell what)
  throw (.exited 2)

/-- Leaves a command of the shell with a complaint. -/
def refuse {α : Type} (what : String) : Act α := do
  modify (·.complainAsShell what)
  throw .refused

/-- Uses a tool. -/
def use (tool : Machine → Nat × Machine) : Act Nat :=
  modifyGet tool

/-- Does something, and gives how it was broken off, if it was. -/
def settle {α : Type} (act : Act α) : Act (Except Ending α) :=
  ExceptT.mk (Except.ok <$> act.run)

/-- What is done on a machine: how it ends, and the machine after it. -/
def on {α : Type} (act : Act α) (m : Machine) : Option (Except Ending α × Machine) :=
  act.run.run m

/-- Gives what an act gave that has been settled, or is broken off as it was. -/
def resume {α : Type} : Except Ending α → Act α
  | .ok answer => return answer
  | .error ending => throw ending

/-- Does something, and then something else in any case. -/
def andFinally {α : Type} (act : Act α) (last : Machine → Machine) : Act α := do
  let result ← settle act
  modify last
  resume result

/-- Does something in a copy of the machine, from which only the world around it is kept. -/
def inCopy {α : Type} (enter : Machine → Machine) (act : Act α) : Act α := do
  let m ← get
  set (enter m)
  andFinally act m.after

/-- Goes on step by step until there is an answer; after a number of steps no end is in sight. -/
def iterate {σ α : Type} (step : σ → Act (σ ⊕ α)) : Nat → σ → Act α
  | 0, _ => endless
  | steps + 1, state => do
    match ← step state with
    | .inl state => iterate step steps state
    | .inr answer => return answer

end Act

end ProjectCheck.Shell
