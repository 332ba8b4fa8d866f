import ProjectCheck.Sandbox.Access
import ProjectCheck.Scan.Stream
import ProjectCheck.Settings.Basic

/-!
# Scanning a sandbox

Listing the files of a project and reading the selected ones, with one command each.  A command
that cannot be run breaks the step off.  A listing that failed and printed nothing gives no tree at
all, so that it is not taken for an empty project.
-/

namespace ProjectCheck.Scan

open ProjectCheck.Text

variable {τ : Type}

/-- The framing that the settings ask for. -/
def framingOf (settings : ScannerSettings) : Framing :=
  { opening := settings.startDelimiter
    closing := settings.endDelimiter
    unreadable := settings.unreadableMark }

/-- How much of an output is shown in the log. -/
def shownOutputLength : Nat :=
  500

/-- The command by which the settings ask for a listing. -/
def listingCommand (settings : ScannerSettings) : String :=
  treeCommand settings.sourceRoot

/-- The command by which the settings ask for files. -/
def readingCommand (settings : ScannerSettings) : String :=
  batchCommand settings.sourceRoot settings.maxFiles (framingOf settings)

/-- The tree that a listing command shows, and what the log says about it. -/
def treeOf (sandbox : String) (result : CommandResult) : Option FileTree × LogEntry :=
  if !result.isSuccess && result.stdout.isEmpty then
    (none, .warning "file_tree_unavailable"
      [("sandbox_id", .text sandbox), ("exit_code", .int result.exitCode),
       ("stderr", .text (shorten shownOutputLength result.stderr))])
  else
    let tree := FileTree.ofListing result.stdout
    (some tree, .info "file_tree_enumerated"
      [("sandbox_id", .text sandbox), ("file_count", .ofNat tree.size)])

/-- Lists the source files of a sandbox. -/
def listFiles (client : Client) (settings : ScannerSettings) (sandbox : String) :
    Work τ (Option FileTree) := do
  let result ← Sandbox.runCommand client sandbox (listingCommand settings) settings.treeTimeoutMs
  let (tree, entry) := treeOf sandbox result
  Work.note entry
  return tree

/-- The log entries about the files of a stream that could not be read. -/
def unreadableEntries (stream : Stream) : List LogEntry :=
  stream.skipped.map fun path => .warning "batch_file_unreadable" [("path", .text path)]

/-- The log entries about an error output. -/
def complaintEntries (sandbox : String) (result : CommandResult) : List LogEntry :=
  if result.stderr.isEmpty then []
  else [.warning "batch_scan_stderr"
    [("sandbox_id", .text sandbox), ("stderr", .text (shorten shownOutputLength result.stderr))]]

/-- Takes in what a reading command printed. -/
def takeIn (settings : ScannerSettings) (sandbox : String) (result : CommandResult) :
    Work τ Stream := do
  Work.noteAll (complaintEntries sandbox result)
  if result.stdout.isEmpty then
    Work.note (.warning "batch_scan_empty"
      [("sandbox_id", .text sandbox), ("exit_code", .int result.exitCode)])
    return {}
  else
    match Stream.decode? (framingOf settings) result.stdout with
    | none => throw .emptyDelimiter
    | some stream =>
      Work.noteAll (unreadableEntries stream)
      Work.note (.info "batch_scan_complete"
        [("sandbox_id", .text sandbox), ("file_count", .ofNat stream.files.length),
         ("skipped", .ofNat stream.skipped.length)])
      return stream

/-- Reads the selected files of a sandbox. -/
def readFiles (client : Client) (settings : ScannerSettings) (sandbox : String) :
    Work τ Stream := do
  takeIn settings sandbox
    (← Sandbox.runCommand client sandbox (readingCommand settings) settings.batchTimeoutMs)

end ProjectCheck.Scan
