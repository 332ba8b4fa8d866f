import ProjectCheck.Session.Basic

/-!
# Access to sandboxes

Running commands and reading files in a session.  A command either gives a result or is broken off
by a fault; a command without time is not even sent, and neither is one with more time than seconds
can tell.  A file that cannot be read is nothing, which is the answer that a missing file is expected
to give.
-/

namespace ProjectCheck.Sandbox

open ProjectCheck.Text

variable {τ : Type}

/-- How much of a command is shown in the log. -/
def shownCommandLength : Nat :=
  120

/-- The fields of log entries about a command. -/
def commandFields (sandbox command : String) : List (String × Value) :=
  [("sandbox_id", .text sandbox), ("command", .text (shorten shownCommandLength command))]

/-- Breaks a command off since it did not end in time. -/
def timeOut (sandbox command : String) (timeoutMs : Int) : Work τ CommandResult := do
  Work.note (.warning "remote_command_timeout"
    (commandFields sandbox command ++ [("timeout_ms", .int timeoutMs)]))
  throw (.fault (.commandTimeout (.text sandbox) (.text command) (.int timeoutMs)))

/-- Breaks a command off since it could not be run. -/
def failCommand (sandbox command reason : String) : Work τ CommandResult := do
  Work.note (.warning "remote_command_failed" (commandFields sandbox command))
  throw (.fault (.commandFailed (.text sandbox) (.text command) (.text reason)))

/-- The smallest number of milliseconds whose seconds are too large for a floating-point number:
`1000 * (2 ^ 1024 - 2 ^ 970)`. -/
def uncountableTimeout : Nat :=
  1000 * (Nat.pow (Nat.pow 2 128) 8 - Nat.pow (Nat.pow 2 194) 5)

/-- Whether the seconds of a timeout are a floating-point number. -/
def isCountable (timeoutMs : Int) : Bool :=
  timeoutMs.natAbs < uncountableTimeout

/-- Why a command with more time than seconds can tell could not be run. -/
def uncountableReason : String :=
  "integer division result too large for a float"

/-- The interruption by a response that cannot be used. -/
def interruptionOf : ResponseFault → Interruption
  | .unusable f => .fault f
  | .endlessExitCode => .endlessExitCode

/-- Runs a command in a sandbox. -/
def runCommand (client : Client) (sandbox command : String) (timeoutMs : Int) :
    Work τ CommandResult := do
  if !isCountable timeoutMs then failCommand sandbox command uncountableReason
  else if timeoutMs ≤ 0 then timeOut sandbox command timeoutMs
  else
    let earlier ← Work.record (.command sandbox command timeoutMs)
    match client.execute earlier sandbox command timeoutMs with
    | .timeout => timeOut sandbox command timeoutMs
    | .fault f => throw (.fault f)
    | .failure reason => failCommand sandbox command reason
    | .response r =>
      match r.normalize with
      | .ok result => return result
      | .error f => throw (interruptionOf f)

/-- What a file read gives: bytes as text, and nothing if there is no value. -/
def contentOf : Option Value → Option Value
  | none => none
  | some .null => none
  | some (.bytes bs) => some (.text (stringOfBytes bs))
  | some v => some v

/-- Reads a file of a sandbox. -/
def readContent (client : Client) (sandbox path : String) : Work τ (Option Value) := do
  let earlier ← Work.record (.read sandbox path)
  return contentOf (client.read earlier sandbox path)

end ProjectCheck.Sandbox
