import ProjectCheck.Import.Declaration
import ProjectCheck.MissingExport
import ProjectCheck.Resolution.Resolver

/-!
# Missing imports

Import declarations of a file that name a module which is not there.

With a sandbox, every specifier that stands for a file of the project is resolved, and each one that
stands for nothing is a finding, with the candidates and a suggestion.  Without one nothing can be
resolved, so only the modules that are missing often are findings, of low severity.  Assets are
passed over in both cases.  Exports that are missing from the file itself come last.
-/

namespace ProjectCheck.MissingImport

open ProjectCheck.Text

/-- The details that every finding about a declaration has. -/
def commonDetails (found : Find Import.Declaration) (reason : String) : List (String × Value) :=
  [("import_type", .text found.content.kindName), ("reason", .text reason),
   ("import_statement", .text (String.ofList found.text)), ("line", .ofNat found.line)]

/-- A finding about a declaration of a file. -/
def finding (path : String) (found : Find Import.Declaration) (message : String)
    (severity : Severity) (details : List (String × Value)) : Diagnostic :=
  { subject := .missingImport (.text found.content.specifier)
    category := .imports
    message := .text message
    severity
    details := .record details
    autoFixable := .bool true
    file := .text path
    line := .ofNat found.line }

/-- The finding about a module that is missing often. -/
def doubtful (path : String) (found : Find Import.Declaration) : Diagnostic :=
  finding path found ("Potentially missing import: " ++ found.content.specifier) .low
    (commonDetails found "problematic_pattern")

/-- The finding about a specifier that stands for nothing. -/
def unresolved (path : String) (found : Find Import.Declaration) (candidates : List String)
    (tree : Option FileTree) : Diagnostic :=
  finding path found ("Cannot find module '" ++ found.content.specifier ++ "'") .high
    (commonDetails found "unresolved" ++
      [("candidates", .list (candidates.map .text)),
       ("suggestion", .text (Resolution.suggestion candidates tree))])

/-! ## Without a sandbox -/

/-- The findings that need no sandbox. -/
def findDoubtful (path content : String) : List Diagnostic :=
  ((Import.declarations content).filter fun found =>
      !Import.isAsset found.content.specifier && Import.isDoubtful found.content.specifier).map
    (doubtful path)

/-- The findings about a file alone. -/
def findAlone (path content : String) : List Diagnostic :=
  findDoubtful path content ++ MissingExport.find path content

/-! ## In a sandbox -/

variable {τ : Type} [Sub τ] [LE τ] [DecidableLE τ]

/-- The finding about a declaration, if its specifier stands for nothing. -/
def check (resolver : Resolver) (path sandbox : String) (tree : Option FileTree)
    (found : Find Import.Declaration) : Work τ (Option Diagnostic) := do
  let specifier := found.content.specifier
  if Import.isAsset specifier || !resolver.isLocal specifier then return none
  else
    let resolution ← resolver.resolve specifier path (some sandbox) tree
    if resolution.isFound then return none
    else
      Work.note (.info "import_unresolved"
        [("file", .text path), ("specifier", .text specifier),
         ("candidates", .ofNat resolution.tried.length)])
      return some (unresolved path found resolution.tried tree)

/-- The findings about some declarations, in order. -/
def checkAll (resolver : Resolver) (path sandbox : String) (tree : Option FileTree) :
    List (Find Import.Declaration) → Work τ (List Diagnostic)
  | [] => return []
  | found :: rest => do
    let finding ← check resolver path sandbox tree found
    let others ← checkAll resolver path sandbox tree rest
    return finding.toList ++ others

/-- The findings about a file in a sandbox. -/
def findInSandbox (resolver : Resolver) (path content sandbox : String)
    (tree : Option FileTree) : Work τ (List Diagnostic) := do
  let findings ← checkAll resolver path sandbox tree (Import.declarations content)
  return findings ++ MissingExport.find path content

/-- The findings about a file: in a sandbox if there are one and a resolver, else alone. -/
def find (resolver : Option Resolver) (path content : String) (sandbox : Option String)
    (tree : Option FileTree) : Work τ (List Diagnostic) :=
  match resolver, sandbox with
  | some resolver, some sandbox => findInSandbox resolver path content sandbox tree
  | _, _ => return findAlone path content

end ProjectCheck.MissingImport
