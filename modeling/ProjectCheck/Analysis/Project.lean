import ProjectCheck.Analysis.Fragment
import ProjectCheck.CompilerOutput

/-!
# Analysis of a project in its sandbox

Three detectors work in the sandbox: the compiler, the linter if one is set, and the project scan,
which reads the selected files and checks their imports.  A detector that the sandbox gives no data
to contributes nothing.  If none of them has data, or one of them is broken off by anything else,
the analysis falls back to the files in memory.  In either case all detectors have come to their
end before the outcome is looked at.
-/

namespace ProjectCheck.Analysis

open ProjectCheck.Text

/-- The detectors that work in a sandbox. -/
inductive SandboxDetector where
  | compiler
  | lint
  | projectScan
deriving Repr, DecidableEq

/-- The name of a detector in the log. -/
def SandboxDetector.name : SandboxDetector → String
  | compiler => "compiler"
  | lint => "lint"
  | projectScan => "project_scan"

/-- How the run of a detector ended. -/
structure DetectorRun where
  detector : SandboxDetector
  /-- Whether the sandbox gave any data. -/
  hasData : Bool := true
  findings : List Diagnostic := []
deriving Repr, BEq

variable {τ : Type}

/-- The field that names the sandbox in a log entry. -/
def sandboxField (sandbox : String) : String × Value :=
  ("sandbox_id", .text sandbox)

/-- Ends the run of a detector without data. -/
def endWithoutData (detector : SandboxDetector) (entry : LogEntry) :
    Work τ (Option DetectorRun) := do
  Work.note entry
  return some { detector, hasData := false }

/-- The outcome of a step, or nothing if the sandbox gave no data; any other interruption stays
one. -/
def unlessNoData {α : Type} (step : Work τ α) : Work τ (Option α) := do
  match ← Work.settle step with
  | .ok a => return some a
  | .error why => if why.isNoData then return none else throw why

/-! ## The compiler -/

/-- The findings in what the compiler printed. -/
def compilerFindings (result : CommandResult) : Work τ (List Diagnostic) :=
  match CompilerOutput.parse result.combinedOutput with
  | .ok found => return Diagnostic.deduplicate found
  | .error why => throw (.numeral why)

/-- Takes in what the compiler printed.  A compiler that fails without a finding did not run. -/
def takeInCompiler (sandbox : String) (result : CommandResult) :
    Work τ (Option DetectorRun) := do
  let findings ← compilerFindings result
  if !result.isSuccess && findings.isEmpty then
    endWithoutData .compiler (.warning "compiler_failed"
      [sandboxField sandbox, ("exit_code", .int result.exitCode),
       ("output", .text (shorten Scan.shownOutputLength result.combinedOutput))])
  else
    Work.note (.info "compiler_complete"
      [sandboxField sandbox, ("error_count", .ofNat findings.length)])
    return some { detector := .compiler, findings }

/-- Runs the compiler, if it is enabled. -/
def runCompiler (client : Client) (settings : CompilerSettings) (sandbox : String) :
    Work τ (Option DetectorRun) := do
  if !settings.enabled then return none
  match ← unlessNoData
      (Sandbox.runCommand client sandbox settings.command settings.timeoutMs) with
  | none => endWithoutData .compiler (.warning "compiler_unavailable" [sandboxField sandbox])
  | some result => takeInCompiler sandbox result

/-! ## The linter -/

/-- What the log says about a report of the linter. -/
def lintEntries : LintOutput.Reading → List LogEntry
  | .unparseable => [.warning "eslint_output_unparseable" []]
  | .unexpected kind => [.warning "eslint_output_unexpected" [("shape", .text kind)]]
  | .tooDeep => []
  | .results _ => []

/-- The findings in a report of the linter. -/
def lintFindings (report : String) : Work τ (List Diagnostic) := do
  let reading := LintOutput.read report
  Work.noteAll (lintEntries reading)
  match reading.findings with
  | .ok findings => return findings
  | .error why => throw (.lint why)

/-- Takes in what the linter printed.  A linter that prints nothing has data if it succeeds. -/
def takeInLint (sandbox : String) (result : CommandResult) : Work τ (Option DetectorRun) := do
  if isBlankText result.stdout.toList then
    Work.note (.warning "lint_no_output"
      [sandboxField sandbox, ("exit_code", .int result.exitCode)])
    return some { detector := .lint, hasData := result.isSuccess }
  else
    let findings ← lintFindings result.stdout
    Work.note (.info "lint_complete"
      [sandboxField sandbox, ("error_count", .ofNat findings.length)])
    return some { detector := .lint, findings }

/-- Runs the linter, if a command is set for it. -/
def runLint (client : Client) (settings : CompilerSettings) (sandbox : String) :
    Work τ (Option DetectorRun) := do
  match settings.lintCommand with
  | none => return none
  | some command =>
    if command.isEmpty then return none
    match ← unlessNoData
        (Sandbox.runCommand client sandbox command settings.lintTimeoutMs) with
    | none => endWithoutData .lint (.warning "lint_unavailable" [sandboxField sandbox])
    | some result => takeInLint sandbox result

/-! ## The project scan -/

variable [Sub τ] [LE τ] [DecidableLE τ]

/-- Remembers the tree of a sandbox, or forgets it if there is none. -/
def rememberTree (sandbox : String) (tree : Option FileTree) : Work τ Unit :=
  modify fun s => { s with trees :=
    match tree with
    | some tree => s.trees.put sandbox (some tree) s.now
    | none => s.trees.invalidate (some sandbox) }

/-- The findings about the imports of one scanned file; none if that is broken off. -/
def checkScannedFile (resolver : Resolver) (sandbox : String) (tree : Option FileTree)
    (file : Scan.ScannedFile) : Work τ (List Diagnostic) := do
  match ← Work.settle
      (MissingImport.find (some resolver) file.path file.content (some sandbox) tree) with
  | .ok findings => return findings
  | .error _ =>
    Work.note (.warning "import_analysis_skipped" [("file", .text file.path)])
    return []

/-- The findings about the imports of scanned files, in order. -/
def checkScannedFiles (resolver : Resolver) (sandbox : String) (tree : Option FileTree) :
    List Scan.ScannedFile → Work τ (List Diagnostic)
  | [] => return []
  | file :: rest => do
    let findings ← checkScannedFile resolver sandbox tree file
    let others ← checkScannedFiles resolver sandbox tree rest
    return findings ++ others

/-- The findings about the links of scanned files, if they are asked for. -/
def linkFindings (settings : DetectorSettings) (files : List Scan.ScannedFile) :
    List Diagnostic :=
  if settings.projectNavigation then
    files.flatMap fun file => Navigation.find file.path file.content
  else []

/-- Checks the files of a stream against a tree. -/
def checkStream (a : Analyser) (sandbox : String) (tree : Option FileTree)
    (stream : Scan.Stream) : Work τ (Option DetectorRun) := do
  rememberTree sandbox tree
  let imports ← checkScannedFiles a.resolver sandbox tree stream.files
  let findings := imports ++ linkFindings a.settings.detectors stream.files
  Work.note (.info "project_scan_complete"
    [sandboxField sandbox, ("scanned", .ofNat stream.files.length),
     ("skipped", .ofNat stream.skipped.length),
     ("tree_size", .ofOption (fun tree => .ofNat tree.size) tree),
     ("error_count", .ofNat findings.length)])
  return some { detector := .projectScan, findings }

/-- The first of two outcomes that is an interruption, or both results. -/
def both {α β : Type} :
    Except Interruption α → Except Interruption β → Except Interruption (α × β)
  | .ok a, .ok b => .ok (a, b)
  | .error why, _ => .error why
  | .ok _, .error why => .error why

/-- Scans the project.  The manifest is loaded ahead, so that the files find it in memory. -/
def runProjectScan (a : Analyser) (client : Client) (sandbox : String) :
    Work τ (Option DetectorRun) := do
  let tree ← Work.settle (Scan.listFiles client a.settings.scanner sandbox)
  let stream ← Work.settle (Scan.readFiles client a.settings.scanner sandbox)
  let _ ← Work.settle (Manifest.load client a.settings.resolver.manifestPath sandbox)
  match both tree stream with
  | .ok (tree, stream) => checkStream a sandbox tree stream
  | .error why =>
    if why.isNoData then
      endWithoutData .projectScan (.warning "project_scan_unavailable" [sandboxField sandbox])
    else throw why

/-! ## All together -/

/-- The results of outcomes, or the first interruption among them. -/
def allResults {α : Type} : List (Except Interruption α) → Except Interruption (List α)
  | [] => .ok []
  | outcome :: rest => do
    let first ← outcome
    let others ← allResults rest
    return first :: others

/-- The report of the runs; nothing if none of them has data. -/
def reportOfRuns? (runs : List DetectorRun) : Option Report :=
  if runs.any (·.hasData) then some (.ofFindings .hybrid (runs.flatMap (·.findings))) else none

/-- Analyses a project with the detectors that work in its sandbox; nothing if there is no data. -/
def inSandbox (a : Analyser) (client : Client) (sandbox : String) : Work τ (Option Report) := do
  let compiler ← Work.settle (runCompiler client a.settings.compiler sandbox)
  let lint ← Work.settle (runLint client a.settings.compiler sandbox)
  let scan ← Work.settle (runProjectScan a client sandbox)
  match allResults [compiler, lint, scan] with
  | .error why => throw why
  | .ok outcomes =>
    let runs := outcomes.filterMap id
    match reportOfRuns? runs with
    | some report => return some report
    | none =>
      Work.note (.warning "remote_detectors_failed"
        [sandboxField sandbox, ("detectors", .list (runs.map fun run => .text run.detector.name))])
      return none

/-- What the log says about the report of a project. -/
def projectEntry (sandbox : String) (report : Report) : LogEntry :=
  .info "hybrid_analysis_complete"
    [sandboxField sandbox, ("build_errors", .ofNat report.build.length),
     ("import_errors", .ofNat report.imports.length),
     ("navigation_errors", .ofNat report.navigation.length),
     ("severity", .text report.severity.name)]

/-- The report of a project in its sandbox, or nothing if there is no data or the analysis is
broken off. -/
def attempt (a : Analyser) (client : Client) (sandbox : String) : Work τ (Option Report) := do
  match ← Work.settle (inSandbox a client sandbox) with
  | .ok report? => return report?
  | .error _ =>
    Work.note (.error "hybrid_analysis_failed" [sandboxField sandbox])
    return none

/-- Analyses a project in its sandbox, and the files in memory if that gives nothing. -/
def project (a : Analyser) (files : List MemoryFile) (sandbox : String) : Work τ Report := do
  match a.client with
  | none =>
    Work.note (.error "hybrid_analysis_unavailable"
      [sandboxField sandbox, ("reason", .text "no client")])
    fragment a files .fallback
  | some client =>
    match ← attempt a client sandbox with
    | some report =>
      Work.note (projectEntry sandbox report)
      return report
    | none =>
      Work.note (.error "hybrid_analysis_fallback" [sandboxField sandbox])
      fragment a files .fallback

end ProjectCheck.Analysis
