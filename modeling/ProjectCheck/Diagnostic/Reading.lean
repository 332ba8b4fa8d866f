import ProjectCheck.Diagnostic

/-!
# Reading records of findings

`Diagnostic.ofValue` is the way back from `Diagnostic.toValue`.  The members that every finding has
may be missing, a message and what the subject needs excepted; a member that findings of the kind do
not have is refused.
-/

namespace ProjectCheck

/-- Why a record is no finding. -/
inductive RecordFault where
  /-- It names a category or a severity that does not exist. -/
  | unknownName
  /-- It lacks a member, or has one that does not belong to its kind. -/
  | wrongMembers
deriving Repr, DecidableEq

namespace Diagnostic

/-- The members that the records of all kinds may have. -/
def commonMembers : List String :=
  ["kind", "type", "message", "severity", "auto_fixable", "details", "file", "line", "column", "id"]

/-- The members that only records of a kind may have, and those that they must have. -/
def kindMembers : String → List String × List String
  | "import" => (["import_path"], ["message", "file", "import_path"])
  | "navigation" => (["route"], ["message", "route"])
  | "runtime" => (["stack", "url"], ["message"])
  | _ => ([], ["message"])

/-- A text member of a record, empty if there is none. -/
def textMember (v : Value) (name : String) : String :=
  ((v.member? name).bind Value.text?).getD ""

/-- A member of a record, null if there is none. -/
def valueMember (v : Value) (name : String) : Value :=
  (v.member? name).getD .null

/-- The subject of a record. -/
def subjectOf (v : Value) : Subject :=
  match textMember v "kind" with
  | "build" => .build
  | "import" => .missingImport (valueMember v "import_path")
  | "navigation" => .brokenRoute (valueMember v "route")
  | "runtime" => .pageRuntime (valueMember v "stack") (valueMember v "url")
  | _ => .project

/-- Whether a record has the members of its kind and no others. -/
def hasRightMembers (v : Value) : Bool :=
  let (own, required) := kindMembers (textMember v "kind")
  required.all (fun name => (v.member? name).isSome) &&
    match v with
    | .record ms => ms.all fun m => (commonMembers ++ own).contains m.1
    | _ => false

/-- The finding that a record describes. -/
def ofValue (v : Value) : Except RecordFault Diagnostic :=
  match Category.ofName? (textMember v "type"), Severity.ofName? (textMember v "severity") with
  | some category, some severity =>
    if !hasRightMembers v then .error .wrongMembers
    else
      .ok {
        subject := subjectOf v, category, severity
        message := valueMember v "message"
        autoFixable := (v.member? "auto_fixable").getD (.bool false)
        details := (v.member? "details").getD (.record [])
        file := valueMember v "file"
        line := valueMember v "line"
        column := valueMember v "column" }
  | _, _ => .error .unknownName

end Diagnostic

end ProjectCheck
