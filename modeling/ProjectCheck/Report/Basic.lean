import ProjectCheck.Diagnostic

/-!
# Reports

All findings of one run, grouped by kind.  The summary of a report is derived from the build, import
and navigation groups; runtime findings are carried along and count for nothing.
-/

namespace ProjectCheck

/-- How a report came about. -/
inductive Mode where
  /-- From files in memory alone. -/
  | fragment
  /-- From the whole project in its sandbox. -/
  | hybrid
  /-- From files in memory, because the sandbox gave nothing. -/
  | fallback
deriving Repr, DecidableEq, Inhabited

namespace Mode

/-- The name of a mode. -/
def name : Mode → String
  | fragment => "fragment"
  | hybrid => "hybrid"
  | fallback => "fallback"

/-- The mode of a name. -/
def ofName? : String → Option Mode
  | "fragment" => some fragment
  | "hybrid" => some hybrid
  | "fallback" => some fallback
  | _ => none

end Mode

/-- All findings of one run. -/
structure Report where
  build : List Diagnostic := []
  runtime : List Diagnostic := []
  imports : List Diagnostic := []
  navigation : List Diagnostic := []
  mode : Mode := .fragment
deriving Repr, BEq, Inhabited

namespace Report

/-- The findings that count. -/
def counted (r : Report) : List Diagnostic :=
  r.build ++ r.imports ++ r.navigation

/-- How many findings count. -/
def total (r : Report) : Nat :=
  r.build.length + r.imports.length + r.navigation.length

/-- The highest severity of the findings that count. -/
def severity (r : Report) : Severity :=
  Severity.highest (r.counted.map (·.severity))

/-- Whether some finding that counts can be mended automatically. -/
def autoFixable (r : Report) : Bool :=
  r.counted.any (·.isFixable)

/-- Whether some finding that counts stops further work. -/
def isBlocking (r : Report) : Bool :=
  r.severity.isBlocking

/-- The report of findings of all kinds, each in the group of its kind. -/
def ofFindings (mode : Mode) (ds : List Diagnostic) : Report :=
  { build := ds.filter fun d => d.subject.isBuild
    imports := ds.filter fun d => d.subject.isImport
    navigation := ds.filter fun d => d.subject.isNavigation
    mode }

/-- A report as a record; `stamp` is put in as the time of detection, if there is one. -/
def toValue (r : Report) (stamp : Option String) : Value :=
  .record <|
    [("build_errors", .list (r.build.map Diagnostic.toValue)),
     ("runtime_errors", .list (r.runtime.map Diagnostic.toValue)),
     ("import_errors", .list (r.imports.map Diagnostic.toValue)),
     ("navigation_errors", .list (r.navigation.map Diagnostic.toValue)),
     ("severity", .text r.severity.name),
     ("auto_fixable", .bool r.autoFixable),
     ("total_errors", .ofNat r.total)] ++
    (match stamp with
      | none => []
      | some time => [("detected_at", .text time)]) ++
    [("mode", .text r.mode.name)]

end Report

end ProjectCheck
