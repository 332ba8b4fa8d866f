import ProjectCheck.Log.Entry

/-!
# Settings

What can be set, in five sections, with the value that each setting has by default.  Times to live
are seconds, timeouts are milliseconds.
-/

namespace ProjectCheck

/-- How log lines are written. -/
inductive LogFormat where
  | json
  | console
deriving Repr, DecidableEq, Inhabited

/-- One place to which log lines go. -/
structure LogOutput where
  format : LogFormat := .console
  /-- The name of a standard stream, or an absolute path. -/
  destination : String := "stderr"
  /-- The threshold of this place, if it is not that of the whole log. -/
  level : Option LogLevel := none
deriving Repr, DecidableEq, Inhabited

/-- The settings of the log. -/
structure LoggingSettings where
  level : LogLevel := .info
  outputs : List LogOutput := [{}]
deriving Repr, DecidableEq, Inhabited

/-- The settings of module resolution. -/
structure ResolverSettings where
  manifestPath : String := "tsconfig.json"
  manifestTtl : Float := 300.0
  aliasLead : String := "@/"
  treeTtl : Float := 300.0
deriving Repr, BEq, Inhabited

/-- The settings of the project scan. -/
structure ScannerSettings where
  sourceRoot : String := "src"
  maxFiles : Int := 100
  treeTimeoutMs : Int := 10000
  batchTimeoutMs : Int := 30000
  startDelimiter : String := "___FILE_SEPARATOR___"
  endDelimiter : String := "___END_FILE___"
  unreadableMark : String := "ERROR_READING_FILE"
deriving Repr, DecidableEq, Inhabited

/-- The most files that a scan may be set to read. -/
def ScannerSettings.fileCeiling : Int :=
  500

/-- The settings of the compiler and the linter. -/
structure CompilerSettings where
  enabled : Bool := true
  command : String := "bunx tsc -b --noEmit"
  timeoutMs : Int := 60000
  lintCommand : Option String := none
  lintTimeoutMs : Int := 60000
deriving Repr, DecidableEq, Inhabited

/-- The settings of the optional detectors. -/
structure DetectorSettings where
  contentLint : Bool := false
  projectNavigation : Bool := false
deriving Repr, DecidableEq, Inhabited

/-- All settings. -/
structure Settings where
  logging : LoggingSettings := {}
  resolver : ResolverSettings := {}
  scanner : ScannerSettings := {}
  compiler : CompilerSettings := {}
  detectors : DetectorSettings := {}
deriving Repr, BEq, Inhabited

end ProjectCheck
