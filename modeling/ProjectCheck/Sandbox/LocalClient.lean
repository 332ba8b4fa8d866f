import ProjectCheck.Sandbox.Client
import ProjectCheck.Sandbox.Local
import ProjectCheck.Shell.Run

/-!
# Commands in local sandboxes

A command of a local sandbox is run by a shell in the directory of the sandbox.  What it writes to
the disk stays there.  It has to end within its time; a command that was killed by a signal has the
signal, with the sign turned, as its exit code.
-/

namespace ProjectCheck.Sandbox

open ProjectCheck.Shell ProjectCheck.Text

/-- The exit code of a shell that ends with a status, or is broken off. -/
def exitCodeOf : Except Ending Nat → Int
  | .ok status => (status % 256 : Nat)
  | .error (.killed signal) => -(signal : Int)
  | .error _ => 1

/-- The result that a machine leaves when its shell has ended. -/
def resultOf (ending : Except Ending Nat) (m : Machine) : CommandResult :=
  { exitCode := exitCodeOf ending
    stdout := stringOfBytes (m.printedOn .output)
    stderr := stringOfBytes (m.printedOn .errors) }

namespace LocalHost

/-- Runs a command in a sandbox within a number of milliseconds: its result, if it ends in time, and
the host after it. -/
def execute (host : LocalHost) (sandbox command : String) (timeoutMs : Int) :
    Except LocalFault (Option CommandResult × LocalHost) := do
  let project ← host.projectOf sandbox
  if command.toList.contains '\x00' then throw .unusableText
  if command.utf8ByteSize > commandLimit then throw .tooLong
  match runCommand? command
      { disk := host.disk, directory := project, modes := host.modes } with
  | none => return (none, host)
  | some (ending, m) =>
    let inTime := (m.elapsedMs : Int) < timeoutMs
    return (if inTime then some (resultOf ending m) else none, 
      { host with disk := m.disk, modes := m.modes })

/-- A client of a host whose commands leave the disk as it is. -/
def client (host : LocalHost) : Client where
  execute _ sandbox command timeoutMs :=
    match host.execute sandbox command timeoutMs with
    | .error fault => .failure fault.message
    | .ok (none, _) => .timeout
    | .ok (some result, _) => .response (.result result)
  read _ sandbox path :=
    match host.readText sandbox path with
    | .ok text => some (.text text)
    | .error _ => none

end LocalHost

end ProjectCheck.Sandbox
