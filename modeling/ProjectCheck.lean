import ProjectCheck.Analysis.Fragment
import ProjectCheck.Analysis.Project
import ProjectCheck.Analysis.SingleFile
import ProjectCheck.Cache
import ProjectCheck.Calendar
import ProjectCheck.CommandLine.Request
import ProjectCheck.CommandLine.Run
import ProjectCheck.CommandLine.Words
import ProjectCheck.CompilerOutput
import ProjectCheck.Content.Rule
import ProjectCheck.Content.Scan
import ProjectCheck.Diagnostic
import ProjectCheck.Diagnostic.Reading
import ProjectCheck.Disk.Node
import ProjectCheck.Disk.Walk
import ProjectCheck.Fault
import ProjectCheck.FileTree
import ProjectCheck.Import.Declaration
import ProjectCheck.Import.Specifier
import ProjectCheck.LintOutput
import ProjectCheck.Log.Book
import ProjectCheck.Log.Entry
import ProjectCheck.Log.Line
import ProjectCheck.Main
import ProjectCheck.Manifest.Basic
import ProjectCheck.Manifest.Loader
import ProjectCheck.MissingExport
import ProjectCheck.MissingImport
import ProjectCheck.Navigation
import ProjectCheck.Number.Reading
import ProjectCheck.Number.Notation
import ProjectCheck.Number.Quantity
import ProjectCheck.Number.Shortest
import ProjectCheck.Path
import ProjectCheck.Report.Basic
import ProjectCheck.Report.Rendering
import ProjectCheck.Report.Instant
import ProjectCheck.Report.Marks
import ProjectCheck.Report.Style
import ProjectCheck.Resolution.Target
import ProjectCheck.Resolution.Resolver
import ProjectCheck.Sandbox.Access
import ProjectCheck.Sandbox.Client
import ProjectCheck.Sandbox.Local
import ProjectCheck.Sandbox.LocalClient
import ProjectCheck.Sandbox.Response
import ProjectCheck.Scan.Command
import ProjectCheck.Scan.Scanner
import ProjectCheck.Scan.Stream
import ProjectCheck.Session.Basic
import ProjectCheck.Settings.Basic
import ProjectCheck.Settings.Scalar
import ProjectCheck.Settings.Environment
import ProjectCheck.Settings.Layers
import ProjectCheck.Settings.Refusal
import ProjectCheck.Settings.Sections
import ProjectCheck.Shell.Builtin
import ProjectCheck.Shell.Calculation
import ProjectCheck.Shell.Call
import ProjectCheck.Shell.Changes
import ProjectCheck.Shell.Columns
import ProjectCheck.Shell.Comparison
import ProjectCheck.Shell.Conditions
import ProjectCheck.Shell.Control
import ProjectCheck.Shell.Digest
import ProjectCheck.Shell.Dump
import ProjectCheck.Shell.Edit.Run
import ProjectCheck.Shell.Edit.Script
import ProjectCheck.Shell.Editing
import ProjectCheck.Shell.Exchange
import ProjectCheck.Shell.Expansion
import ProjectCheck.Shell.Expression
import ProjectCheck.Shell.Figures
import ProjectCheck.Shell.Gathering
import ProjectCheck.Shell.Glob
import ProjectCheck.Shell.Grammar
import ProjectCheck.Shell.Identity
import ProjectCheck.Shell.Layout
import ProjectCheck.Shell.Lines
import ProjectCheck.Shell.Listing
import ProjectCheck.Shell.Machine
import ProjectCheck.Shell.Matching
import ProjectCheck.Shell.Measure
import ProjectCheck.Shell.Mode
import ProjectCheck.Shell.Names
import ProjectCheck.Shell.Options
import ProjectCheck.Shell.Order
import ProjectCheck.Shell.Pattern
import ProjectCheck.Shell.Printing
import ProjectCheck.Shell.Quotation
import ProjectCheck.Shell.Reading
import ProjectCheck.Shell.Record.Cell
import ProjectCheck.Shell.Record.Run
import ProjectCheck.Shell.Record.Script
import ProjectCheck.Shell.Redirection
import ProjectCheck.Shell.Run
import ProjectCheck.Shell.Script
import ProjectCheck.Shell.Search.Format
import ProjectCheck.Shell.Search.Query
import ProjectCheck.Shell.Search.Walk
import ProjectCheck.Shell.Sequence
import ProjectCheck.Shell.Sorting
import ProjectCheck.Shell.Token
import ProjectCheck.Shell.Tool
import ProjectCheck.Shell.Word
import ProjectCheck.Table
import ProjectCheck.Text.Class
import ProjectCheck.Text.Cut
import ProjectCheck.Text.Quoted
import ProjectCheck.Text.Lowercase
import ProjectCheck.Text.Place
import ProjectCheck.Text.Printable
import ProjectCheck.Text.Similarity
import ProjectCheck.Text.Utf8
import ProjectCheck.Text.Word
import ProjectCheck.Value.Basic
import ProjectCheck.Value.Display
import ProjectCheck.Value.JsonReader
import ProjectCheck.Value.JsonWriter
import ProjectCheck.Value.Order
import ProjectCheck.Value.Overlay
import ProjectCheck.Yaml.BlockText
import ProjectCheck.Yaml.Document
import ProjectCheck.Yaml.Place
import ProjectCheck.Yaml.Node
import ProjectCheck.Yaml.Plain
import ProjectCheck.Yaml.Quotation
import ProjectCheck.Yaml.Scalar
import ProjectCheck.Yaml.Token
import ProjectCheck.Proofs.Manifest.Loading
import ProjectCheck.Proofs.Text.Occurrence
import ProjectCheck.Proofs.Resolution.Candidates
import ProjectCheck.Proofs.Resolution.FirstFound
import ProjectCheck.Proofs.Text.Trimming
import ProjectCheck.Proofs.FileTree.Listing
import ProjectCheck.Proofs.FileTree.Similar
import ProjectCheck.Proofs.Resolution.TreeAgreement
import ProjectCheck.Proofs.Scan.Framed
import ProjectCheck.Proofs.Scan.RoundTrip
import ProjectCheck.Proofs.Session.Answers
import ProjectCheck.Proofs.Sandbox.Command
import ProjectCheck.Proofs.Scan.Requests
import ProjectCheck.Proofs.Analysis.Detectors
import ProjectCheck.Proofs.Session.Agreement
import ProjectCheck.Proofs.Analysis.Outcomes
import ProjectCheck.Proofs.Analysis.Subjects
import ProjectCheck.Proofs.Analysis.Fallback
import ProjectCheck.Proofs.Analysis.Searching
import ProjectCheck.Proofs.Analysis.Interference
import ProjectCheck.Proofs.Cache.Lookup
import ProjectCheck.Proofs.Analysis.History
import ProjectCheck.Proofs.Analysis.Transparency
import ProjectCheck.Proofs.Analysis.Scanning
import ProjectCheck.Proofs.Analysis.Snapshot
import ProjectCheck.Proofs.Analysis.RoundTrips
import ProjectCheck.Proofs.Cache.Life
import ProjectCheck.Proofs.Manifest.World
import ProjectCheck.Proofs.Json.Token
import ProjectCheck.Proofs.Json.Document
import ProjectCheck.Proofs.Manifest.Histories
import ProjectCheck.Proofs.Manifest.Interleaving
import ProjectCheck.Proofs.Manifest.Outlook
import ProjectCheck.Proofs.Manifest.Stripping
import ProjectCheck.Proofs.Json.Reading
import ProjectCheck.Proofs.Cache.Log
import ProjectCheck.Proofs.Text.Reading
import ProjectCheck.Proofs.Import.Written
import ProjectCheck.Proofs.Import.Extraction
import ProjectCheck.Proofs.CompilerOutput.Location
import ProjectCheck.Proofs.CompilerOutput.Blocks
import ProjectCheck.Proofs.CompilerOutput.RoundTrip
import ProjectCheck.Proofs.CompilerOutput.Streams
import ProjectCheck.Proofs.CompilerOutput.HeadLines
import ProjectCheck.Proofs.Text.Decoding
import ProjectCheck.Proofs.Sandbox.Response
import ProjectCheck.Proofs.Disk.Canonical
import ProjectCheck.Proofs.Sandbox.Confinement
import ProjectCheck.Proofs.Shell.Quoting
import ProjectCheck.Proofs.Scan.Commands
import ProjectCheck.Proofs.Settings.Rereading
import ProjectCheck.Proofs.Settings.Homes
import ProjectCheck.Proofs.Settings.Loading
import ProjectCheck.Proofs.MissingExport.Forms
import ProjectCheck.Proofs.MissingExport.Silence
import ProjectCheck.Proofs.MissingExport.Report
import ProjectCheck.Proofs.MissingImport.Checking
import ProjectCheck.Proofs.Analysis.BrokenListing
import ProjectCheck.Proofs.Analysis.Files
import ProjectCheck.Proofs.Analysis.LintReports
import ProjectCheck.Proofs.Value.Overlay
import ProjectCheck.Proofs.Yaml.Names
import ProjectCheck.Proofs.Settings.Parts
import ProjectCheck.Proofs.Settings.Variables
import ProjectCheck.Proofs.Settings.Precedence
import ProjectCheck.Proofs.Resolution.Targets
import ProjectCheck.Proofs.Content.LineByLine
import ProjectCheck.Proofs.Diagnostic.Repeated
