import ProjectCheck.Report.Basic
import ProjectCheck.Report.Marks
import ProjectCheck.Value.Display
import ProjectCheck.Value.Order

/-!
# Rendering of reports

A report is shown as one table for each group that has findings, most urgent findings first, and a
line that sums it up; a report without findings is one line.  Lines carry style marks in square
brackets.

A finding may hold anything in the place of its file, its line and its message, and some of that
cannot be sorted or shown.
-/

namespace ProjectCheck

/-- Why findings cannot be shown. -/
inductive RenderFault where
  /-- Places have no order, or a file is no text. -/
  | badPlace
  /-- A message is no text. -/
  | badMessage
deriving Repr, DecidableEq

/-- One thing to show. -/
inductive Shown where
  | line (marked : String)
  | gap
  | table (title : String) (headers : List String) (rows : List (List String))
      (severityStyles : List String)
deriving Repr, DecidableEq, Inhabited

/-- One thing to show as a value. -/
def Shown.toValue : Shown → Value
  | line marked => .text marked
  | gap => .null
  | table title headers rows styles =>
    .record
      [("title", .text title), ("headers", .list (headers.map .text)),
       ("rows", .list (rows.map fun row => .list (row.map .text))),
       ("styles", .list (styles.map .text))]

/-- The style that a severity is shown in. -/
def Severity.style : Severity → String
  | .critical => "bold red"
  | .high => "red"
  | .medium => "yellow"
  | .low => "dim"

namespace Diagnostic

/-- Where a finding is: file, line and column as far as they are known. -/
def location (d : Diagnostic) : Except RenderFault String :=
  if !d.file.isSubstantial then .ok "-"
  else
    match d.file, d.line, d.column with
    | .text file, .null, _ => .ok file
    | .text file, line, .null => .ok (file ++ ":" ++ line.plain)
    | .text file, line, column => .ok (file ++ ":" ++ line.plain ++ ":" ++ column.plain)
    | _, _, _ => .error .badPlace

/-- The message of a finding in a table; none leaves its cell empty. -/
def messageCell (d : Diagnostic) : Except RenderFault String :=
  match d.message with
  | .text s => .ok s
  | .null => .ok ""
  | _ => .error .badMessage

/-- The line of a finding as a value to sort by. -/
def lineKey (d : Diagnostic) : Value :=
  if d.line.isSubstantial then d.line else .int 0

/-- The file of a finding as a value to sort by. -/
def fileKey (d : Diagnostic) : Value :=
  if d.file.isSubstantial then d.file else .text ""

/-- Whether the place of a finding comes before that of another: by file, then line. -/
def placedBefore? (a b : Diagnostic) : Option Bool :=
  if a.fileKey.sameScalar b.fileKey then
    if a.lineKey.sameScalar b.lineKey then some false else a.lineKey.isBelow? b.lineKey
  else a.fileKey.isBelow? b.fileKey

/-- Whether a finding is shown before another: by urgency, then place. -/
def shownBefore? (a b : Diagnostic) : Option Bool :=
  if a.severity.rank != b.severity.rank then some (b.severity.rank < a.severity.rank)
  else placedBefore? a b

/-- The row of a finding in a table. -/
def row (d : Diagnostic) : Except RenderFault (List String) := do
  let location ← d.location
  return [d.severity.name, location, ← d.messageCell]

end Diagnostic

namespace Report

/-- The table of one group of findings. -/
def table (title : String) (group : List Diagnostic) : Except RenderFault Shown :=
  match sortedBy? Diagnostic.shownBefore? group with
  | none => .error .badPlace
  | some sorted => do
    return .table (title ++ " (" ++ toString group.length ++ ")")
      ["Severity", "Location", "Message"] (← sorted.mapM Diagnostic.row)
      (sorted.map (·.severity.style))

/-- The line that sums up a report with findings. -/
def summary (r : Report) : String :=
  let style := r.severity.style
  "[bold]" ++ toString r.total ++ "[/bold] errors, severity [" ++ style ++ "]" ++
    r.severity.name ++ "[/" ++ style ++ "], auto-fixable: " ++
    (if r.autoFixable then "yes" else "no") ++ " [dim](mode: " ++ r.mode.name ++ ")[/dim]"

/-- What is shown of a report. -/
def render (r : Report) : Except RenderFault (List Shown) := do
  if r.total == 0 then
    return [.line ("[green]No errors detected[/green] [dim](mode: " ++ r.mode.name ++ ")[/dim]")]
  else
    let groups :=
      [("Build errors", r.build), ("Import errors", r.imports),
       ("Navigation errors", r.navigation)]
    let tables ← (groups.filter fun group => !group.2.isEmpty).mapM fun (title, group) =>
      table title group
    return (tables.flatMap fun table => [table, .gap]) ++ [.line r.summary]

end Report

/-!
## Drawing of reports

What is shown of a report, drawn as text: a table with its title, its headers over a rule, and a
line for each row, the cells of a column being padded to one width.  The marked texts in a report
are shown without their style marks, so a report whose texts close a mark that cannot be closed
cannot be drawn.
-/

namespace Report

/-- A text with blanks behind it, up to a width. -/
def padded (width : Nat) (s : String) : String :=
  s ++ String.ofList (List.replicate (width - s.length) ' ')

/-- The width of each column of some rows. -/
def columnWidths : List (List String) → List Nat
  | [] => []
  | [row] => row.map String.length
  | row :: rest => List.zipWith max (row.map String.length) (columnWidths rest)

/-- A row with its cells padded to the widths of their columns, and a line feed. -/
def drawRow (widths : List Nat) (row : List String) : String :=
  let line := "  ".intercalate (List.zipWith padded widths row)
  String.ofList (Text.trimEnd line.toList) ++ "\n"

/-- A table with its title. -/
def drawTable (title : String) (headers : List String) (rows : List (List String)) : String :=
  let widths := columnWidths (headers :: rows)
  let rule := widths.map fun width => String.ofList (List.replicate width '─')
  title ++ "\n" ++ String.join ((headers :: rule :: rows).map (drawRow widths))

end Report

/-- The text of one thing to show; nothing if it closes a mark that cannot be closed. -/
def Shown.text? : Shown → Option String
  | line marked => (Report.shownText? marked).map (· ++ "\n")
  | gap => some "\n"
  | table title headers rows _ => do
    let shown ← rows.mapM fun row => row.mapM Report.shownText?
    return Report.drawTable title headers shown

/-- Why a report cannot be drawn. -/
inductive DrawFault where
  | unrendered (why : RenderFault)
  /-- A text closes a style mark that cannot be closed. -/
  | strayMark
deriving Repr, DecidableEq

/-- The text of a report. -/
def Report.text (r : Report) : Except DrawFault String :=
  match r.render with
  | .error why => .error (.unrendered why)
  | .ok shown =>
    match shown.mapM Shown.text? with
    | some texts => .ok (String.join texts)
    | none => .error .strayMark

end ProjectCheck
