import ProjectCheck.Log.Entry
import ProjectCheck.Table
import ProjectCheck.Text.Cut
import ProjectCheck.Value.Display
import ProjectCheck.Value.JsonWriter

/-!
# Log lines

A record is an entry together with what the log adds to it: the time, the logger and the request
that it belongs to.  It is written as a JSON object on one line, or for the eye: the time, the level
in brackets, the event, the logger in brackets and then the fields in the order of their names.  For
the eye, a stack and the account of an exception stand in lines of their own below.
-/

namespace ProjectCheck

open ProjectCheck.Text

/-- An entry with what the log adds to it. -/
structure LogRecord where
  time : String
  logger : String
  request : Option String := none
  entry : LogEntry
deriving Repr, BEq

namespace LogRecord

/-- All members of a record.  What the log adds covers fields of the same names. -/
def members (r : LogRecord) : List (String × Value) :=
  let added :=
    [("event", Value.text r.entry.event), ("logger", .text r.logger),
     ("level", .text r.entry.level.name), ("timestamp", .text r.time)]
  let request := match r.request with
    | some id => [("request_id", Value.text id)]
    | none => []
  (added ++ request).foldl (fun ms m => Table.put m.1 m.2 ms) r.entry.fields

/-- The names of members that a formatted line leaves out. -/
def innerNames : List String :=
  ["_record", "_from_structlog"]

/-- The members that a formatted line shows. -/
def shownMembers (r : LogRecord) : List (String × Value) :=
  r.members.filter fun m => !innerNames.contains m.1

/-- A record as JSON on one line. -/
def jsonLine (r : LogRecord) : String :=
  (Value.record r.shownMembers).jsonText

/-- A record with its texts quoted. -/
def shownLine (r : LogRecord) : String :=
  (Value.record r.members).shown

/-- The characters that would blur where a value ends. -/
def blurring : List Char :=
  [' ', '\t', '=', '\r', '\n', '"', '\'']

/-- A value of a field: a text as it is, if its end is clear, and else quoted. -/
def fieldText : Value → String
  | .text s => if s.toList.any blurring.contains then (Value.text s).shown else s
  | v => v.shown

/-- The members that have a place of their own in a line for the eye. -/
def placedNames : List String :=
  ["timestamp", "level", "event", "logger", "logger_name"]

/-- The members that are shown below a line for the eye, if at all. -/
def belowNames : List String :=
  ["stack", "exception", "exc_info"]

/-- A text in brackets. -/
def bracketed (s : String) : String :=
  "[" ++ s ++ "]"

/-- The line of a record for the eye. -/
def headLine (r : LogRecord) : String :=
  let placed := placedNames.filterMap fun name =>
    (Table.get? name r.members).map fun v =>
      if name == "timestamp" || name == "event" then v.plain else bracketed v.plain
  let others := (r.shownMembers.filter fun m => !(placedNames ++ belowNames).contains m.1).mergeSort
    fun a b => decide (a.1 ≤ b.1)
  let parts := placed ++ others.map fun m => m.1 ++ "=" ++ fieldText m.2
  let line := " ".intercalate (parts.filter (!·.isEmpty))
  String.ofList (dropEndWhile (· == ' ') line.toList)

/-- What parts a stack from the account of an exception. -/
def rule : String :=
  String.ofList (List.replicate 79 '=')

/-- A record for the eye; nothing if its stack or the account of its exception is no text. -/
def consoleText? (r : LogRecord) : Option String :=
  let member := fun name => (Table.get? name r.members).getD .null
  let isRuled := (member "exc_info").isSubstantial || member "exception" != .null
  let stack? := match member "stack" with
    | .null => some ""
    | .text stack => some ("\n" ++ stack ++ if isRuled then "\n\n" ++ rule ++ "\n" else "")
    | _ => none
  let account? := match member "exception" with
    | .null => some ""
    | .text account => some ("\n" ++ account)
    | _ => none
  match stack?, account? with
  | some stack, some account => some (r.headLine ++ stack ++ account)
  | _, _ => none

end LogRecord

end ProjectCheck
