import ProjectCheck.Settings.Basic
import ProjectCheck.Settings.Scalar

/-!
# Reading and writing sections

Each section of the settings is read from a record.  A setting that is missing has its default, and
a member that is no setting is passed over.  `toValue` writes all settings of a section, so reading
what was written changes nothing but what the rules of a setting change again.
-/

namespace ProjectCheck

open ProjectCheck.Number ProjectCheck.Settings ProjectCheck.Text

/-! ## The log -/

namespace LogLevel

/-- The names of the levels in the settings. -/
def choices : List (String × LogLevel) :=
  [("DEBUG", debug), ("INFO", info), ("WARNING", warning), ("ERROR", error), ("CRITICAL", critical)]

/-- The name of a level in the settings. -/
def settingName : LogLevel → String
  | debug => "DEBUG"
  | info => "INFO"
  | warning => "WARNING"
  | error => "ERROR"
  | critical => "CRITICAL"

end LogLevel

namespace LogFormat

/-- The names of the formats. -/
def choices : List (String × LogFormat) :=
  [("json", json), ("console", console)]

/-- The name of a format. -/
def name : LogFormat → String
  | json => "json"
  | console => "console"

end LogFormat

namespace LogOutput

/-- All settings of this section at their defaults. -/
def standard : LogOutput :=
  {}

/-- Reads one place for log lines. -/
def read (home : String) : Value → Reading LogOutput :=
  Reading.group "LogOutputConfig" fun ms =>
    LogOutput.mk <$>
      Reading.field ms "format" standard.format (readChoice LogFormat.choices) <*>
      Reading.field ms "destination" standard.destination
        (fun v => (readText v).andThen (readDestination home v)) <*>
      Reading.field ms "level" standard.level (readOptionalChoice LogLevel.choices)

/-- One place for log lines as a record. -/
def toValue (o : LogOutput) : Value :=
  .record
    [("format", .text o.format.name), ("destination", .text o.destination),
     ("level", .ofOption (fun level => .text level.settingName) o.level)]

end LogOutput

namespace LoggingSettings

/-- All settings of this section at their defaults. -/
def standard : LoggingSettings :=
  {}

/-- Reads the places for log lines. -/
def readOutputs (home : String) (v : Value) : Reading (List LogOutput) :=
  match v with
  | .list items => Reading.parts (LogOutput.read home) 0 items
  | .tuple items => Reading.parts (LogOutput.read home) 0 items
  | _ => .refuse .notList v

/-- Reads the settings of the log. -/
def read (home : String) : Value → Reading LoggingSettings :=
  Reading.group "LoggingConfig" fun ms =>
    LoggingSettings.mk <$>
      Reading.field ms "level" standard.level (readChoice LogLevel.choices) <*>
      Reading.field ms "outputs" standard.outputs (readOutputs home)

/-- The settings of the log as a record. -/
def toValue (s : LoggingSettings) : Value :=
  .record [("level", .text s.level.settingName), ("outputs", .list (s.outputs.map LogOutput.toValue))]

end LoggingSettings

/-! ## Module resolution -/

namespace ResolverSettings

/-- All settings of this section at their defaults. -/
def standard : ResolverSettings :=
  {}

/-- Reads a time to live: a number that is not negative. -/
def readTtl (v : Value) : Reading Float :=
  (readNumber v).andThen fun x =>
    if x < 0.0 then
      .refuse (.against ("TTL must be >= 0, got " ++ floatText plainSpecials x)) v
    else .done x

/-- Reads the settings of module resolution. -/
def read : Value → Reading ResolverSettings :=
  Reading.group "ResolverConfig" fun ms =>
    ResolverSettings.mk <$>
      Reading.field ms "manifest_path" standard.manifestPath readText <*>
      Reading.field ms "config_ttl_sec" standard.manifestTtl readTtl <*>
      Reading.field ms "alias_prefix" standard.aliasLead readText <*>
      Reading.field ms "file_tree_ttl_sec" standard.treeTtl readTtl

/-- The settings of module resolution as a record. -/
def toValue (s : ResolverSettings) : Value :=
  .record
    [("manifest_path", .text s.manifestPath), ("config_ttl_sec", .float s.manifestTtl),
     ("alias_prefix", .text s.aliasLead), ("file_tree_ttl_sec", .float s.treeTtl)]

end ResolverSettings

/-! ## The project scan -/

namespace ScannerSettings

/-- All settings of this section at their defaults. -/
def standard : ScannerSettings :=
  {}

/-- Drops the slashes at both ends. -/
def trimSlashes (s : List Char) : List Char :=
  dropEndWhile (· == '/') (s.dropWhile (· == '/'))

/-- The directory that a text names: the text without the blanks around it, and without slashes at
the ends of what is left.  It may not be empty, may not lead upwards, and may hold no single
quote. -/
def sourceRootOf? (s : String) : Option String :=
  let root := trimSlashes (trim s.toList)
  if root.isEmpty || (pieces '/' root).contains ['.', '.'] || root.contains '\'' then none
  else some (String.ofList root)

/-- Reads the source directory. -/
def readSourceRoot (v : Value) : Reading String :=
  (readText v).andThen fun s =>
    match sourceRootOf? s with
    | some root => .done root
    | none =>
      .refuse (.against ("source_root must be a relative directory, got " ++ quotedString s)) v

/-- Reads the most files that a scan reads. -/
def readMaxFiles (v : Value) : Reading Int :=
  (readInteger v).andThen fun n =>
    if 1 ≤ n && n ≤ fileCeiling then .done n
    else
      .refuse (.against
        ("max_files must be 1-" ++ toString fileCeiling ++ ", got " ++ toString n)) v

/-- Reads the settings of the project scan. -/
def read : Value → Reading ScannerSettings :=
  Reading.group "ScannerConfig" fun ms =>
    ScannerSettings.mk <$>
      Reading.field ms "source_root" standard.sourceRoot readSourceRoot <*>
      Reading.field ms "max_files" standard.maxFiles readMaxFiles <*>
      Reading.field ms "tree_timeout_ms" standard.treeTimeoutMs readInteger <*>
      Reading.field ms "batch_timeout_ms" standard.batchTimeoutMs readInteger <*>
      Reading.field ms "start_delimiter" standard.startDelimiter readText <*>
      Reading.field ms "end_delimiter" standard.endDelimiter readText <*>
      Reading.field ms "unreadable_sentinel" standard.unreadableMark readText

/-- The settings of the project scan as a record. -/
def toValue (s : ScannerSettings) : Value :=
  .record
    [("source_root", .text s.sourceRoot), ("max_files", .int s.maxFiles),
     ("tree_timeout_ms", .int s.treeTimeoutMs), ("batch_timeout_ms", .int s.batchTimeoutMs),
     ("start_delimiter", .text s.startDelimiter), ("end_delimiter", .text s.endDelimiter),
     ("unreadable_sentinel", .text s.unreadableMark)]

end ScannerSettings

/-! ## The compiler and the linter -/

namespace CompilerSettings

/-- All settings of this section at their defaults. -/
def standard : CompilerSettings :=
  {}

/-- Reads the settings of the compiler and the linter. -/
def read : Value → Reading CompilerSettings :=
  Reading.group "CompilerConfig" fun ms =>
    CompilerSettings.mk <$>
      Reading.field ms "enabled" standard.enabled readTruth <*>
      Reading.field ms "command" standard.command readText <*>
      Reading.field ms "timeout_ms" standard.timeoutMs readInteger <*>
      Reading.field ms "lint_command" standard.lintCommand readOptionalText <*>
      Reading.field ms "lint_timeout_ms" standard.lintTimeoutMs readInteger

/-- The settings of the compiler and the linter as a record. -/
def toValue (s : CompilerSettings) : Value :=
  .record
    [("enabled", .bool s.enabled), ("command", .text s.command), ("timeout_ms", .int s.timeoutMs),
     ("lint_command", .ofOption .text s.lintCommand), ("lint_timeout_ms", .int s.lintTimeoutMs)]

end CompilerSettings

/-! ## Optional detectors -/

namespace DetectorSettings

/-- All settings of this section at their defaults. -/
def standard : DetectorSettings :=
  {}

/-- Reads the settings of the optional detectors. -/
def read : Value → Reading DetectorSettings :=
  Reading.group "DetectorsConfig" fun ms =>
    DetectorSettings.mk <$>
      Reading.field ms "content_lint" standard.contentLint readTruth <*>
      Reading.field ms "project_navigation" standard.projectNavigation readTruth

/-- The settings of the optional detectors as a record. -/
def toValue (s : DetectorSettings) : Value :=
  .record
    [("content_lint", .bool s.contentLint), ("project_navigation", .bool s.projectNavigation)]

end DetectorSettings

/-! ## All settings -/

namespace Settings

/-- The names of the sections, in order. -/
def sectionNames : List String :=
  ["logging", "resolver", "scanner", "compiler", "detectors"]

/-- Reads all settings from the members of a record. -/
def ofMembers (home : String) (ms : List (String × Value)) : Reading Settings :=
  Settings.mk <$>
    Reading.field ms "logging" {} (LoggingSettings.read home) <*>
    Reading.field ms "resolver" {} ResolverSettings.read <*>
    Reading.field ms "scanner" {} ScannerSettings.read <*>
    Reading.field ms "compiler" {} CompilerSettings.read <*>
    Reading.field ms "detectors" {} DetectorSettings.read

/-- Reads all settings. -/
def read (home : String) : Value → Reading Settings :=
  Reading.group "SandScanConfig" (ofMembers home)

/-- All settings as a record. -/
def toValue (s : Settings) : Value :=
  .record
    [("logging", s.logging.toValue), ("resolver", s.resolver.toValue),
     ("scanner", s.scanner.toValue), ("compiler", s.compiler.toValue),
     ("detectors", s.detectors.toValue)]

end Settings

end ProjectCheck
