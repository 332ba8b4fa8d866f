import ProjectCheck.Content.Rule
import ProjectCheck.Diagnostic
import ProjectCheck.Value.Display
import ProjectCheck.Value.JsonReader

/-!
# Lint output

Reports of a linter in its JSON format: an array of results, one for each file, each with an array
of messages.  Messages of error level are kept, in document order, unless their text is benign.
What a message says about its place, its rule and its fix is taken over as it stands.

A text that is no JSON, or whose top level is no array, gives no findings.  A message that is no
object, messages that are no array, a rule id that is neither text nor container, and values that are
nested too deeply make the whole report unusable.
-/

namespace ProjectCheck.LintOutput

open ProjectCheck.Text

/-- Why a lint report is unusable. -/
inductive Fault where
  /-- A message has no members. -/
  | messageWithoutMembers
  /-- The messages of a result cannot be gone through. -/
  | messagesNotIterable
  /-- A rule id cannot be searched. -/
  | ruleNotSearchable
  /-- The values of the report are nested too deeply. -/
  | tooDeep
deriving Repr, DecidableEq

/-- What the severity of a finding depends on: the first of these texts that its rule id holds. -/
def ruleSeverities : List (String × Severity) :=
  [("no-undef", .critical), ("no-unused-vars", .critical),
   ("react-hooks/exhaustive-deps", .critical), ("prefer-const", .high), ("no-var", .high),
   ("@typescript-eslint/no-explicit-any", .high)]

/-- Whether a rule id holds a text: as a part of a text, or as an item or a name in a container. -/
def ruleHolds (part : String) : Value → Except Fault Bool
  | .text s => .ok (occursIn part.toList s.toList)
  | .list items => .ok (items.any (· == .text part))
  | .tuple items => .ok (items.any (· == .text part))
  | .record members => .ok (members.any (·.1 == part))
  | _ => .error .ruleNotSearchable

/-- The severity of the first text in a list that a rule id holds; `medium` if it holds none. -/
def severityAmong (rule : Value) : List (String × Severity) → Except Fault Severity
  | [] => .ok .medium
  | (part, severity) :: rest => do
    if ← ruleHolds part rule then return severity else severityAmong rule rest

/-- The severity of a finding of a rule; `low` if no rule is named. -/
def severityOfRule (rule : Value) : Except Fault Severity :=
  if rule.isSubstantial then severityAmong rule ruleSeverities else .ok .low

/-- The member of a record under a name, null if it has none. -/
def field (members : List (String × Value)) (name : String) : Value :=
  (Table.get? name members).getD .null

/-- Whether a message is of error level. -/
def isErrorLevel (message : List (String × Value)) : Bool :=
  (field message "severity").sameScalar (.int 2)

/-- The finding of a message in a result, if it is kept. -/
def ofMessage? (result : List (String × Value)) : Value → Except Fault (Option Diagnostic)
  | .record message => do
    let text := ((Table.get? "message" message).getD (.text "")).plain
    if Content.isBenign text.toList || !isErrorLevel message then return none
    let rule := field message "ruleId"
    let severity ← severityOfRule rule
    let fix := field message "fix"
    return some {
      subject := .build
      category := .eslint
      message := .text text
      severity
      autoFixable := .bool (fix != .null)
      details :=
        .record [("rule_id", rule), ("severity", field message "severity"), ("fix", fix)]
      file := field result "filePath"
      line := field message "line"
      column := field message "column" }
  | _ => .error .messageWithoutMembers

/-- The messages of a result. -/
def messagesOf (result : List (String × Value)) : Except Fault (List Value) :=
  let messages := field result "messages"
  if !messages.isSubstantial then .ok []
  else
    match messages with
    | .list items => .ok items
    | .text s => .ok (s.toList.map fun c => .text (String.singleton c))
    | .record members => .ok (members.map fun member => .text member.1)
    | _ => .error .messagesNotIterable

/-- The findings of a result; anything but an object has none. -/
def ofResult : Value → Except Fault (List Diagnostic)
  | .record result => do
    let found ← (← messagesOf result).mapM (ofMessage? result)
    return found.filterMap id
  | _ => .ok []

/-- What a report turns out to be. -/
inductive Reading where
  /-- The text is no JSON. -/
  | unparseable
  /-- The values are nested too deeply. -/
  | tooDeep
  /-- The top level is something else than an array. -/
  | unexpected (kind : String)
  | results (items : List Value)
deriving Repr, BEq

/-- Reads the text of a report. -/
def read (text : String) : Reading :=
  match Value.readJson text.toList with
  | .error .malformed => .unparseable
  | .error .tooDeep => .tooDeep
  | .ok (.list items) => .results items
  | .ok other => .unexpected other.kindName

/-- The findings of a report. -/
def Reading.findings : Reading → Except Fault (List Diagnostic)
  | unparseable => .ok []
  | tooDeep => .error .tooDeep
  | unexpected _ => .ok []
  | results items => do
    return (← items.mapM ofResult).flatten

end ProjectCheck.LintOutput
