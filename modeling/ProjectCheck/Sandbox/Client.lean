import ProjectCheck.Sandbox.Response

/-!
# Clients

A client gives access to sandboxes: it runs commands in them and reads their files.  What it
answers may depend on everything that it was asked before, so a client may fail once and succeed
later, and may change its mind about a file.
-/

namespace ProjectCheck

/-- One request to a client. -/
inductive Call where
  | command (sandbox command : String) (timeoutMs : Int)
  | read (sandbox path : String)
deriving Repr, DecidableEq

namespace Call

/-- The command of a request, if it is one. -/
def asCommand? : Call → Option (String × String × Int)
  | .command sandbox text timeoutMs => some (sandbox, text, timeoutMs)
  | .read .. => none

/-- The sandbox and the path of a request to read a file, if it is one. -/
def asRead? : Call → Option (String × String)
  | .command .. => none
  | .read sandbox path => some (sandbox, path)

end Call

/-- What comes of running a command. -/
inductive CommandAnswer where
  | response (r : Response)
  /-- The command did not end in time. -/
  | timeout
  /-- The client reports a fault of its own. -/
  | fault (f : Fault)
  /-- Anything else that keeps the client from answering. -/
  | failure (reason : String)
deriving Repr, BEq, Inhabited

/-- A client.  Both functions get the earlier requests, the latest first. -/
structure Client where
  /-- Runs a command in a sandbox within a number of milliseconds. -/
  execute : (earlier : List Call) → (sandbox command : String) → (timeoutMs : Int) → CommandAnswer
  /-- Reads a file of a sandbox; nothing if that fails. -/
  read : (earlier : List Call) → (sandbox path : String) → Option Value

end ProjectCheck
