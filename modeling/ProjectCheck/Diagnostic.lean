import ProjectCheck.Value.Basic

/-!
# Severities

How urgently a finding should stop further work.  The ranks order the severities; from `high` on a
finding blocks.
-/

namespace ProjectCheck

/-- How urgently a finding should stop further work. -/
inductive Severity where
  | low
  | medium
  | high
  | critical
deriving Repr, DecidableEq, Inhabited

namespace Severity

/-- The place of a severity in the order of urgency. -/
def rank : Severity → Nat
  | low => 0
  | medium => 1
  | high => 2
  | critical => 3

/-- Whether a finding of this severity stops further work. -/
def isBlocking (s : Severity) : Bool :=
  high.rank ≤ s.rank

/-- The name of a severity. -/
def name : Severity → String
  | low => "low"
  | medium => "medium"
  | high => "high"
  | critical => "critical"

/-- The severity of a name. -/
def ofName? : String → Option Severity
  | "low" => some low
  | "medium" => some medium
  | "high" => some high
  | "critical" => some critical
  | _ => none

/-- The more urgent of two severities. -/
def higher (a b : Severity) : Severity :=
  if a.rank < b.rank then b else a

/-- The most urgent of some severities; `low` if there is none. -/
def highest (severities : List Severity) : Severity :=
  severities.foldl higher low

end Severity

/-!
## Diagnostics

One finding about a project.  Its subject says which detector family it belongs to and what that
family knows beyond the common fields.  What a finding says is kept as the values that the reporting
tool gave, since a report from elsewhere may hold anything there.  In every finding of our own the
message and the file are texts, line and column are integers, the details are a record, and whether
the finding can be mended is a truth value.

Two findings are the same when file, line, column and message agree; `deduplicate` keeps the first
of each.  Containers cannot be compared in this way, so `deduplicate?` refuses them.
-/

/-- The taxonomy of findings. -/
inductive Category where
  | compilation
  | runtime
  | imports
  | navigation
  | build
  | typeScript
  | eslint
  | dependency
  | other
deriving Repr, DecidableEq, Inhabited

namespace Category

/-- The name of a category in a record. -/
def name : Category → String
  | compilation => "COMPILATION"
  | runtime => "RUNTIME"
  | imports => "IMPORT"
  | navigation => "NAVIGATION"
  | build => "BUILD"
  | typeScript => "TYPE_SCRIPT"
  | eslint => "ESLINT"
  | dependency => "DEPENDENCY"
  | other => "OTHER"

/-- All categories. -/
def all : List Category :=
  [compilation, runtime, imports, navigation, build, typeScript, eslint, dependency, other]

/-- The category of a name. -/
def ofName? (s : String) : Option Category :=
  all.find? (·.name == s)

end Category

/-- What a finding is about, with what only findings of that kind know. -/
inductive Subject where
  | build
  | missingImport (specifier : Value)
  | brokenRoute (route : Value)
  | pageRuntime (stack url : Value)
  | project
deriving Repr, BEq, Inhabited

namespace Subject

/-- The name of the kind of a finding in a record. -/
def kindName : Subject → String
  | build => "build"
  | missingImport _ => "import"
  | brokenRoute _ => "navigation"
  | pageRuntime _ _ => "runtime"
  | project => "project"

/-- The members that only records of this kind have. -/
def members : Subject → List (String × Value)
  | build => []
  | missingImport specifier => [("import_path", specifier)]
  | brokenRoute route => [("route", route)]
  | pageRuntime stack url => [("stack", stack), ("url", url)]
  | project => []

/-- Whether a finding belongs to the build. -/
def isBuild : Subject → Bool
  | build => true
  | _ => false

/-- Whether a finding belongs to the imports. -/
def isImport : Subject → Bool
  | missingImport _ => true
  | _ => false

/-- Whether a finding belongs to the navigation. -/
def isNavigation : Subject → Bool
  | brokenRoute _ => true
  | _ => false

end Subject

/-- One finding about a project. -/
structure Diagnostic where
  subject : Subject
  category : Category
  message : Value
  severity : Severity
  autoFixable : Value := .bool false
  details : Value := .record []
  file : Value := .null
  line : Value := .null
  column : Value := .null
deriving Repr, BEq, Inhabited

namespace Diagnostic

/-- Whether a finding can be mended automatically. -/
def isFixable (d : Diagnostic) : Bool :=
  d.autoFixable.isSubstantial

/-- A finding as a record. -/
def toValue (d : Diagnostic) : Value :=
  .record <|
    [("kind", .text d.subject.kindName),
     ("type", .text d.category.name),
     ("message", d.message),
     ("severity", .text d.severity.name),
     ("auto_fixable", d.autoFixable),
     ("details", d.details),
     ("file", d.file),
     ("line", d.line),
     ("column", d.column)] ++ d.subject.members

/-! ## Repeated findings -/

/-- Whether two findings agree in place and message. -/
def sameFinding (a b : Diagnostic) : Bool :=
  a.file.sameScalar b.file && a.line.sameScalar b.line && a.column.sameScalar b.column &&
    a.message.sameScalar b.message

/-- The findings that are neither in `seen` nor earlier in the list. -/
def newAfter (seen : List Diagnostic) : List Diagnostic → List Diagnostic
  | [] => []
  | d :: rest =>
    if seen.any (sameFinding · d) then newAfter seen rest else d :: newAfter (d :: seen) rest

/-- The first of each group of findings that agree in place and message. -/
def deduplicate (ds : List Diagnostic) : List Diagnostic :=
  newAfter [] ds

/-- Whether the place and the message of a finding can be compared. -/
def isComparable (d : Diagnostic) : Bool :=
  d.file.isKey && d.line.isKey && d.column.isKey && d.message.isKey

/-- The first of each group of findings, if all of them can be compared. -/
def deduplicate? (ds : List Diagnostic) : Option (List Diagnostic) :=
  if ds.all isComparable then some (deduplicate ds) else none

end Diagnostic

end ProjectCheck
