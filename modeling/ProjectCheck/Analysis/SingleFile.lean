import ProjectCheck.Analysis.Fragment

/-!
# Analysis of one file

The imports of one file, in a sandbox if there is one.  The tree that the last analysis of the
project remembered is used as long as it has not expired.
-/

namespace ProjectCheck.Analysis

variable {τ : Type} [Sub τ] [LE τ] [DecidableLE τ]

/-- The tree that is remembered of a sandbox. -/
def rememberedTree (sandbox : String) : Work τ (Option FileTree) := do
  let s ← get
  let (known, trees) := s.trees.get sandbox s.now
  set { s with trees }
  return known

/-- The findings about the imports of a file with perhaps no text. -/
def findImports (a : Analyser) (file : MemoryFile) (sandbox : Option String) :
    Work τ (List Diagnostic) := do
  match a.client, sandbox with
  | some _, some name =>
    let tree ← rememberedTree name
    match file.text with
    | none => throw .notText
    | some text => MissingImport.find (some a.resolver) file.path text sandbox tree
  | _, _ =>
    match file.text with
    | none => throw .notText
    | some text => MissingImport.find none file.path text none none

/-- The findings about the imports of a file; none if looking for them is broken off. -/
def fileImports (a : Analyser) (file : MemoryFile) (sandbox : Option String) :
    Work τ (List Diagnostic) := do
  match ← Work.settle (findImports a file sandbox) with
  | .ok findings => return findings
  | .error _ =>
    Work.note (.warning "file_import_analysis_failed" [("file", .text file.path)])
    return []

end ProjectCheck.Analysis
