import ProjectCheck.Fault
import ProjectCheck.Number.Reading
import ProjectCheck.Value.Display

/-!
# Responses

Sandboxes answer a command in shapes of their own.  `Response.normalize` turns each of them into a
`CommandResult`, so nothing else looks at the shape: a record or an object may give the exit code
and the two streams under several names, of which the first that holds something counts.  A missing
exit code means success and a missing stream is empty.  Nothing at all, a text, a byte string and a
number are no responses.
-/

namespace ProjectCheck

open ProjectCheck.Number ProjectCheck.Text

/-- What a command left behind. -/
structure CommandResult where
  exitCode : Int
  stdout : String := ""
  stderr : String := ""
deriving Repr, DecidableEq, Inhabited

namespace CommandResult

/-- Whether a command succeeded. -/
def isSuccess (r : CommandResult) : Bool :=
  r.exitCode == 0

/-- Both streams with a line feed between them; an empty stream is left out. -/
def combinedOutput (r : CommandResult) : String :=
  "\n".intercalate ([r.stdout, r.stderr].filter fun s => !s.isEmpty)

/-- The result of a command that printed something and succeeded. -/
def printing (text : String) : CommandResult :=
  { exitCode := 0, stdout := text }

/-- A result as a record. -/
def toValue (r : CommandResult) : Value :=
  .record
    [("exit_code", .int r.exitCode), ("stdout", .text r.stdout), ("stderr", .text r.stderr),
     ("ok", .bool r.isSuccess), ("combined", .text r.combinedOutput)]

end CommandResult

/-- What a sandbox answers to a command. -/
inductive Response where
  /-- An answer that has the common shape already. -/
  | result (r : CommandResult)
  /-- An answer of some other shape. -/
  | raw (v : Value)
deriving Repr, BEq, Inhabited

/-- Why a response cannot be used. -/
inductive ResponseFault where
  | unusable (fault : Fault)
  /-- The exit code is an infinite number. -/
  | endlessExitCode
deriving Repr, BEq

namespace Response

/-- The names under which the exit code may stand. -/
def exitCodeNames : List String :=
  ["exit_code", "exitCode", "returncode", "code"]

/-- The names under which the standard output may stand. -/
def stdoutNames : List String :=
  ["stdout", "output", "result"]

/-- The names under which the error output may stand. -/
def stderrNames : List String :=
  ["stderr"]

/-- The fields of a value that can be looked into; keys of a mapping that are no texts name none. -/
def fieldsOf : Value → List (String × Value)
  | .record members => members
  | .mapping entries => entries.filterMap fun entry => entry.1.text?.map (·, entry.2)
  | .object _ attributes => attributes
  | _ => []

/-- The first value that is not null under some names, null if there is none. -/
def pick (fields : List (String × Value)) (names : List String) : Value :=
  (names.findSome? fun name =>
    match Table.get? name fields with
    | none => none
    | some .null => none
    | some value => some value).getD .null

mutual

/-- The text of a stream; a list stands for its items one after the other. -/
def streamText : Value → String
  | .null => ""
  | .bytes bs => stringOfBytes bs
  | .list items => streamTexts items
  | .tuple items => streamTexts items
  | v => v.plain

/-- The texts of the parts of a stream, one after the other. -/
def streamTexts : List Value → String
  | [] => ""
  | item :: rest => streamText item ++ streamTexts rest

end

/-- The response cannot be used, since its exit code is no integer. -/
def badExitCode (v : Value) : ResponseFault :=
  .unusable
    (.unexpected (.text "non-integer exit code in command result") [("exit_code", .text v.shown)])

/-- The response cannot be used, since it has no shape of a response. -/
def badShape (v : Value) : ResponseFault :=
  .unusable
    (.unexpected (.text "unsupported command result shape") [("result_type", .text v.kindName)])

/-- Whether a byte may stand in an exit code: it is no part of a longer character, and no separator
of records. -/
def isPlainByte (b : UInt8) : Bool :=
  b < 0x80 && !(0x1C ≤ b && b ≤ 0x1F)

/-- The exit code that a value gives; null means success. -/
def exitCodeOf (v : Value) : Except ResponseFault Int :=
  match v with
  | .null => .ok 0
  | .bool b => .ok (if b then 1 else 0)
  | .int n => .ok n
  | .float x =>
    if x.isInf then .error .endlessExitCode
    else
      match truncateFloat? x with
      | some n => .ok n
      | none => .error (badExitCode v)
  | .text s => (readInteger s.toList).mapError fun _ => badExitCode v
  | .bytes bs =>
    if bs.all isPlainByte then (readInteger (decodeUtf8 bs)).mapError fun _ => badExitCode v
    else .error (badExitCode v)
  | _ => .error (badExitCode v)

/-- Whether a value has the shape of a response. -/
def isContainer : Value → Bool
  | .moment _ => true
  | .list _ => true
  | .tuple _ => true
  | .record _ => true
  | .mapping _ => true
  | .object .. => true
  | _ => false

/-- The result that a response stands for. -/
def normalize : Response → Except ResponseFault CommandResult
  | result r => .ok r
  | raw v => do
    if !isContainer v then throw (badShape v)
    let fields := fieldsOf v
    let exitCode ← exitCodeOf (pick fields exitCodeNames)
    return {
      exitCode
      stdout := streamText (pick fields stdoutNames)
      stderr := streamText (pick fields stderrNames) }

end Response

end ProjectCheck
