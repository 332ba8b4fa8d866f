import ProjectCheck.Value.Display

/-!
# Faults

What can go wrong at the edges of the program, with a code, a message and the details that belong
to it.  Codes from 2000 on are about settings, from 3000 on about a sandbox, and 9001 is an
unexpected situation inside.  Faults of a sandbox may be tried again, since it may be busy.
-/

namespace ProjectCheck

/-- What went wrong.  What a fault is about is kept as the value that it was given. -/
inductive Fault where
  /-- A settings file cannot be read. -/
  | settingsSyntax (path reason : Value)
  /-- A setting has a value that it cannot have. -/
  | settingsValue (field value reason : Value)
  /-- A settings file that was asked for does not exist. -/
  | settingsMissing (path : Value)
  /-- A command did not end in time. -/
  | commandTimeout (sandbox command timeoutMs : Value)
  /-- A command could not be run. -/
  | commandFailed (sandbox command reason : Value)
  /-- Something unexpected happened. -/
  | unexpected (reason : Value) (details : List (String × Value))
deriving Repr, BEq, Inhabited

namespace Fault

/-- The number of a fault. -/
def code : Fault → Nat
  | settingsSyntax .. => 2001
  | settingsValue .. => 2002
  | settingsMissing .. => 2004
  | commandTimeout .. => 3001
  | commandFailed .. => 3002
  | unexpected .. => 9001

/-- The name that goes with the number. -/
def name : Fault → String
  | settingsSyntax .. => "CONFIG_PARSE_ERROR"
  | settingsValue .. => "CONFIG_INVALID_VALUE"
  | settingsMissing .. => "CONFIG_FILE_NOT_FOUND"
  | commandTimeout .. => "REMOTE_TIMEOUT"
  | commandFailed .. => "REMOTE_COMMAND_FAILED"
  | unexpected .. => "INTERNAL_ERROR"

/-- What a fault says. -/
def message : Fault → String
  | settingsSyntax path reason => "Failed to parse config at " ++ path.plain ++ ": " ++ reason.plain
  | settingsValue field _ reason => "Invalid value for '" ++ field.plain ++ "': " ++ reason.plain
  | settingsMissing path => "Config file not found: " ++ path.plain
  | commandTimeout sandbox _ timeoutMs =>
    "Command timed out after " ++ timeoutMs.plain ++ "ms in sandbox " ++ sandbox.plain
  | commandFailed sandbox _ reason =>
    "Command failed in sandbox " ++ sandbox.plain ++ ": " ++ reason.plain
  | unexpected reason _ => "Internal error: " ++ reason.plain

/-- Whether a fault is one of a sandbox. -/
def isRemote : Fault → Bool
  | commandTimeout .. => true
  | commandFailed .. => true
  | _ => false

/-- Whether trying again may help. -/
def isRetryable (f : Fault) : Bool :=
  f.isRemote

/-- The details that belong to a fault. -/
def details : Fault → List (String × Value)
  | settingsSyntax path reason => [("path", path), ("reason", reason)]
  | settingsValue field value reason =>
    [("field", field), ("value", .text value.plain), ("reason", reason)]
  | settingsMissing path => [("path", path)]
  | commandTimeout sandbox command timeoutMs =>
    [("sandbox_id", sandbox), ("command", command), ("timeout_ms", timeoutMs)]
  | commandFailed sandbox command reason =>
    [("sandbox_id", sandbox), ("command", command), ("reason", reason)]
  | unexpected _ details => details

/-- A fault on one line. -/
def text (f : Fault) : String :=
  "[" ++ toString f.code ++ "] " ++ f.name ++ ": " ++ f.message

/-- A fault as a record. -/
def toValue (f : Fault) : Value :=
  .record
    [("code", .ofNat f.code),
     ("error", .text f.name),
     ("message", .text f.message),
     ("retryable", .bool f.isRetryable),
     ("details", .record f.details)]

end Fault

end ProjectCheck
