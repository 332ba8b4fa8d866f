import ProjectCheck.Content.Scan
import ProjectCheck.MissingImport
import ProjectCheck.Navigation
import ProjectCheck.Report.Basic
import ProjectCheck.Resolution.Resolver
import ProjectCheck.Scan.Scanner

/-!
# Analysers

What an analysis works with: perhaps a client that gives access to sandboxes, and the settings.
-/

namespace ProjectCheck

/-- What an analysis works with. -/
structure Analyser where
  client : Option Client := none
  settings : Settings := {}

namespace Analyser

/-- The resolver of an analyser. -/
def resolver (a : Analyser) : Resolver :=
  { client := a.client
    manifestPath := a.settings.resolver.manifestPath
    aliasLead := a.settings.resolver.aliasLead }

/-- A session in which an analyser has done nothing yet. -/
def startSession (a : Analyser) (now : Float) : Session Float :=
  .start now a.settings.resolver.manifestTtl a.settings.resolver.treeTtl

end Analyser

end ProjectCheck

/-!
## Analysis of files in memory

Three detectors go through the source files one by one: one for risky content, one for imports and
exports, and one for links.  A detector that meets a file without text contributes nothing at all;
the other detectors are not affected by that.
-/

namespace ProjectCheck.Analysis

/-- A file in memory, with its text if its content is one. -/
structure MemoryFile where
  path : String
  text : Option String
deriving Repr, DecidableEq, Inhabited

/-- The source files among some files. -/
def sourcesOf (files : List MemoryFile) : List MemoryFile :=
  files.filter fun file => Path.isSource file.path

/-- The findings of a detector in some files; nothing if one of them has no text. -/
def detect? (detector : String → String → List Diagnostic) :
    List MemoryFile → Option (List Diagnostic)
  | [] => some []
  | file :: rest => do
    let text ← file.text
    let others ← detect? detector rest
    return detector file.path text ++ others

/-- The detector of risky content. -/
def contentDetector (settings : DetectorSettings) (path text : String) : List Diagnostic :=
  Content.scanTypeRisks path text ++
    if settings.contentLint then Content.scanLintRisks path text else []

/-- What the log says about a detector that met a file without text. -/
def failureEntries (detector : String) (findings : Option (List Diagnostic)) : List LogEntry :=
  match findings with
  | some _ => []
  | none => [.warning "detector_failed" [("detector", .text detector)]]

/-- What the log says about the report of some source files. -/
def fragmentEntry (fileCount : Nat) (report : Report) : LogEntry :=
  .info "fragment_analysis_complete"
    [("file_count", .ofNat fileCount), ("total_errors", .ofNat report.total),
     ("severity", .text report.severity.name), ("mode", .text report.mode.name)]

/-- The report of some files, and what the log says about it. -/
def fragmentReport (settings : DetectorSettings) (files : List MemoryFile) (mode : Mode) :
    Report × List LogEntry :=
  let sources := sourcesOf files
  let build := detect? (contentDetector settings) sources
  let imports := detect? MissingImport.findAlone sources
  let navigation := detect? Navigation.find sources
  let report : Report :=
    { build := build.getD [], imports := imports.getD [], navigation := navigation.getD [], mode }
  (report,
    failureEntries "build_heuristics" build ++ failureEntries "fragment_imports" imports ++
      failureEntries "navigation" navigation ++ [fragmentEntry sources.length report])

variable {τ : Type}

/-- Analyses files in memory. -/
def fragment (a : Analyser) (files : List MemoryFile) (mode : Mode := .fragment) :
    Work τ Report := do
  let (report, entries) := fragmentReport a.settings.detectors files mode
  Work.noteAll entries
  return report

end ProjectCheck.Analysis
