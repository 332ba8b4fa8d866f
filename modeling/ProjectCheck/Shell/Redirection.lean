import ProjectCheck.Shell.Changes
import ProjectCheck.Shell.Expansion

/-!
# Redirections

Where the streams of a command go.  All targets are worked out before the first stream is sent
anywhere, and a target that cannot be opened leaves the redirections before it in force; the shell
puts all streams back when the command has ended.
-/

namespace ProjectCheck.Shell

open ProjectCheck.Disk

/-- Why a stream cannot be redirected. -/
inductive RedirectFault where
  /-- A file cannot be read. -/
  | unreadable (path : String) (why : Obstruction)
  /-- A file cannot be written. -/
  | unwritable (path : String) (why : Obstruction)
  | closedStream (number : Nat)
deriving Repr, DecidableEq

/-- What a shell says of a stream that cannot be redirected. -/
def RedirectFault.message (dialect : Dialect) : RedirectFault → String
  | unreadable path why =>
    match dialect with
    | .plain => "cannot open " ++ path ++ ": " ++
      if why = .missing || why = .notDirectory then "No such file" else why.message
    | .large => path ++ ": " ++ why.message
  | unwritable path why =>
    match dialect with
    | .plain =>
      "cannot create " ++ path ++ ": " ++
        if why = .missing || why = .notDirectory then "Directory nonexistent" else why.message
    | .large =>
      path ++ ": " ++ if why = .isThere then "cannot overwrite existing file" else why.message
  | closedStream number => toString number ++ ": Bad file descriptor"

/-- The status of a command of which a stream cannot be redirected. -/
def redirectStatus : Dialect → Nat
  | .plain => 2
  | .large => 1

/-- The stream that a redirection is about if it names none. -/
def Direction.stream : Direction → Nat
  | input => 0
  | both => 0
  | duplicateInput => 0
  | document => 0
  | output => 1
  | overwrite => 1
  | append => 1
  | duplicate => 1

/-- The stream that a path is another name of. -/
def streamOfPath? (path : String) : Option Nat :=
  match path with
  | "/dev/stdin" => some 0
  | "/dev/stdout" => some 1
  | "/dev/stderr" => some 2
  | _ => (Text.afterPrefix? "/dev/fd/".toList path.toList).bind fun number =>
    (String.ofList number).toNat?

namespace Machine

/-- Sends a stream where another goes. -/
def duplicate (m : Machine) (stream source : Nat) : Except RedirectFault Machine :=
  match m.channelOf? source with
  | some channel => .ok { m with streams := Table.put stream channel m.streams }
  | none => .error (.closedStream source)

/-- Sends a stream from what a path leads to. -/
def openToRead (m : Machine) (stream : Nat) (path : String) : Except RedirectFault Machine :=
  if path == nullDevice then .ok (m.openChannel stream { backing := .nowhere })
  else
    match streamOfPath? path with
    | some source => m.duplicate stream source
    | none =>
      match m.reach path, canonical? m.disk m.directory path with
      | .ok _, some location => .ok (m.openChannel stream { backing := .file location })
      | .ok _, none => .error (.unreadable path .missing)
      | .error why, _ => .error (.unreadable path why)

/-- Sends a stream to the file that a path means, which may be new.  What was in it goes, unless it
is kept. -/
def openToWrite (m : Machine) (stream : Nat) (path : String) (direction : Direction) :
    Except RedirectFault Machine :=
  if path == nullDevice then .ok (m.openChannel stream { backing := .nowhere })
  else
    match streamOfPath? path with
    | some source => m.duplicate stream source
    | none =>
      match canonical? m.disk m.directory path with
      | none => .error (.unwritable path .endlessLinks)
      | some location =>
        let appends := direction = .append
        let keeps := appends || direction = .both
        let opened := fun (m : Machine) =>
          m.openChannel stream { backing := .file location, appends }
        match m.disk.at? location, obstacle? m location with
        | some (.file content), _ =>
          if path.toList.getLast? == some '/' then .error (.unwritable path .notDirectory)
          else if direction = .output && m.isOn 'C' then
            .error (.unwritable path .isThere)
          else .ok (opened (m.place location (.file (if keeps then content else []))))
        | some _, _ => .error (.unwritable path .isDirectory)
        | none, some why => .error (.unwritable path why)
        | none, none =>
          if path.isEmpty then .error (.unwritable path .missing)
          else if path.toList.getLast? == some '/' then .error (.unwritable path .isDirectory)
          else .ok (opened (m.place location (.file [])))

/-- Redirects a stream. -/
def redirect (m : Machine) (stream : Nat) (direction : Direction) (target : String) :
    Except RedirectFault Machine :=
  let duplicated :=
    if target == "-" then .ok { m with streams := Table.erase stream m.streams }
    else m.duplicate stream (target.toNat?.getD 0)
  match direction with
  | .document => .ok (m.openChannel stream { backing := .text (bytesOf target) })
  | .duplicate => duplicated
  | .duplicateInput => duplicated
  | .input => m.openToRead stream target
  | _ => m.openToWrite stream target direction

end Machine

/-- The target of a redirection.  To send a stream where another goes takes the number of that
stream. -/
def targetOf (inner : String → Act String) (r : Redirect) : Act String := do
  let target ← expandText inner r.target
  let isNumber := target == "-" || (target.length == 1 && target.all Char.isDigit)
  if (r.direction = .duplicate || r.direction = .duplicateInput) && !isNumber then
    Act.fail "Syntax error: Bad fd number"
  return target

/-- Follows redirections in order, up to one that cannot be followed. -/
def followAll : List (Redirect × String) → Act (Option RedirectFault)
  | [] => return none
  | (r, target) :: rest => do
    match (← get).redirect (r.stream.getD r.direction.stream) r.direction target with
    | .ok m => set m; followAll rest
    | .error fault => return some fault

/-- Follows redirections: the status of a command for which they cannot be followed, if there is
something wrong, which is then complained of, already on redirected streams. -/
def followed (inner : String → Act String) (redirects : List Redirect) : Act (Option Nat) := do
  let targets ← redirects.mapM fun r => do return (r, ← targetOf inner r)
  let m ← get
  match ← followAll targets with
  | none => return none
  | some fault =>
    modify fun m => m.complainAsShell (fault.message m.dialect)
    modify fun after => { after with streams := m.streams }
    return some (redirectStatus m.dialect)

end ProjectCheck.Shell
