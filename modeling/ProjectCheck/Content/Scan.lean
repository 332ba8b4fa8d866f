import ProjectCheck.Content.Rule

/-!
# Scanning content

Content is scanned line by line.  Each line gives at most one finding, that of the first rule that
applies to it; a line that holds a benign message gives none.
-/

namespace ProjectCheck.Content

open ProjectCheck.Text

/-- The finding of a rule about a line. -/
def finding (path : String) (number : Nat) (line : List Char) (rule : Rule) : Diagnostic :=
  { subject := .build
    category := rule.category
    message := .text (rule.describe line)
    severity := rule.severity
    autoFixable := .bool rule.autoFixable
    details :=
      .record
        [("rule_id", .text rule.id), ("original_line", .text (String.ofList (trim line))),
         ("analysis_type", .text "content_pattern")]
    file := .text path
    line := .ofNat number
    column := .int 1 }

/-- The rule that speaks about a line: the first that applies, unless the line is benign. -/
def ruleFor? (rules : List Rule) (line : List Char) : Option Rule :=
  if isBenign line then none else rules.find? (·.applies line)

/-- The findings about lines, the first of which has the given number. -/
def scanLines (rules : List Rule) (path : String) (number : Nat) :
    List (List Char) → List Diagnostic
  | [] => []
  | line :: rest =>
    ((ruleFor? rules line).map (finding path number line)).toList ++
      scanLines rules path (number + 1) rest

/-- The findings of rules about a content. -/
def scan (rules : List Rule) (path content : String) : List Diagnostic :=
  scanLines rules path 1 (pieces '\n' content.toList)

/-- Findings about lines that bypass the type checker. -/
def scanTypeRisks (path content : String) : List Diagnostic :=
  scan typeRiskRules path content

/-- Findings about lines that break conventions of style. -/
def scanLintRisks (path content : String) : List Diagnostic :=
  scan lintRiskRules path content

end ProjectCheck.Content
