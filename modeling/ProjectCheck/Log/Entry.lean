import ProjectCheck.Table
import ProjectCheck.Value.Basic

/-!
# Log entries

What the program reports about its own work: an event under a name, with fields, at a level.
-/

namespace ProjectCheck

/-- How important an event is. -/
inductive LogLevel where
  | debug
  | info
  | warning
  | error
  | critical
deriving Repr, DecidableEq, Inhabited

namespace LogLevel

/-- The name of a level in an entry. -/
def name : LogLevel → String
  | debug => "debug"
  | info => "info"
  | warning => "warning"
  | error => "error"
  | critical => "critical"

/-- The weight of a level; an entry is kept where its weight reaches that of the threshold. -/
def weight : LogLevel → Nat
  | debug => 10
  | info => 20
  | warning => 30
  | error => 40
  | critical => 50

/-- All levels. -/
def all : List LogLevel :=
  [debug, info, warning, error, critical]

/-- Whether entries of a level are kept at a threshold. -/
def reaches (level threshold : LogLevel) : Bool :=
  threshold.weight ≤ level.weight

end LogLevel

/-- One event in the log. -/
structure LogEntry where
  level : LogLevel
  event : String
  fields : List (String × Value) := []
deriving Repr, BEq, Inhabited

namespace LogEntry

/-- An event that belongs to normal work. -/
def info (event : String) (fields : List (String × Value)) : LogEntry :=
  ⟨.info, event, fields⟩

/-- An event that takes something away from the result. -/
def warning (event : String) (fields : List (String × Value)) : LogEntry :=
  ⟨.warning, event, fields⟩

/-- An event that changes how the result comes about. -/
def error (event : String) (fields : List (String × Value)) : LogEntry :=
  ⟨.error, event, fields⟩

/-- The levels by all the names that they go by when an event is reported. -/
def levelNamed? (manner : String) : Option LogLevel :=
  match manner with
  | "warn" => some .warning
  | "exception" => some .error
  | "fatal" => some .critical
  | "msg" => some .info
  | _ => LogLevel.all.find? fun level => level.name == manner

/-- The entry of an event that is reported in some manner: the name of a level, or `exception` for an
error that comes with the account of an exception. -/
def reported? (manner event : String) (fields : List (String × Value)) : Option LogEntry :=
  let account :=
    if manner == "exception" && !Table.has "exc_info" fields then [("exc_info", Value.bool true)]
    else []
  (levelNamed? manner).map fun level => ⟨level, event, fields ++ account⟩

/-- An entry as a record. -/
def toValue (entry : LogEntry) : Value :=
  .record (("level", .text entry.level.name) :: ("event", .text entry.event) :: entry.fields)

end LogEntry

end ProjectCheck
