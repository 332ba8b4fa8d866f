import ProjectCheck.Proofs.MissingExport.Forms
import ProjectCheck.Proofs.Text.Lines

/-!
# When nothing is reported about exports

A file gets no finding exactly if it declares a default export, or if it is no application root and
every entry component that one of its lines declares without `export` is named in an export clause
(`find_eq_nil_iff`).  The critical finding is the one about an application root without a declared
default export.

So only one of the two forms of default exports silences the search.  The other form, an item
`Name as default` of an export clause, excuses the component `Name` like any item does, but no
application root (`not_forall_default_silences`).
-/

namespace ProjectCheck.MissingExport

open ProjectCheck.Text

/-- Something is exported by default, in one of the two forms that the language has. -/
def ExportsDefault (content : List Char) : Prop :=
  DeclaresDefault content ∨ ListsDefault content

/-! ## Findings about lines -/

/-- No line gives a finding exactly if none is to be reported. -/
lemma findingsFrom_eq_nil_iff {path : String} {settled : List String} {number : Nat}
    {lines : List (List Char)} :
    findingsFrom path settled number lines = [] ↔
      ∀ line ∈ lines, unexported? settled line = none := by
  induction lines generalizing number with
  | nil => simp [findingsFrom]
  | cons line rest ih =>
    rw [findingsFrom, List.forall_mem_cons]
    cases hline : unexported? settled line with
    | none => simpa using ih
    | some name => simp

/-- A finding about a line is of high severity. -/
lemma severity_of_mem_findingsFrom {path : String} {settled : List String} {number : Nat}
    {lines : List (List Char)} {d : Diagnostic} (h : d ∈ findingsFrom path settled number lines) :
    d.severity = .high := by
  induction lines generalizing settled number with
  | nil => contradiction
  | cons line rest ih =>
    rw [findingsFrom] at h
    split at h
    · exact ih h
    · rcases List.mem_cons.1 h with rfl | h
      · rfl
      · exact ih h

/-! ## Findings about a file -/

section

variable {path content : String}

lemma find_of_declaresDefault (h : DeclaresDefault content.toList) : find path content = [] := by
  rw [find, if_pos (hasDefaultExport_iff.2 h)]

/-- Without a declared default export an application root is reported at the end. -/
lemma find_of_root (hdefault : ¬ DeclaresDefault content.toList)
    (hroot : IsApplicationRoot path content.toList) :
    find path content =
      findingsFrom path
          (rootComponent :: (exportedNames content.toList).map String.ofList) 1
          (pieces '\n' content.toList) ++
        [missingRootExport path] := by
  rw [find, if_neg fun h => hdefault (hasDefaultExport_iff.1 h)]
  simp only [isRoot_iff.2 hroot, if_true]

/-- Without a declared default export any other file is searched line by line. -/
lemma find_of_not_root (hdefault : ¬ DeclaresDefault content.toList)
    (hroot : ¬ IsApplicationRoot path content.toList) :
    find path content =
      findingsFrom path ((exportedNames content.toList).map String.ofList) 1
        (pieces '\n' content.toList) := by
  have hno : isRoot path content.toList = false := by
    rw [Bool.eq_false_iff]
    exact fun h => hroot (isRoot_iff.1 h)
  rw [find, if_neg fun h => hdefault (hasDefaultExport_iff.1 h)]
  simp only [hno, Bool.false_eq_true, if_false, List.append_nil]

end

/-- No line is to be reported exactly if what it declares is among the settled names. -/
lemma unexported?_eq_none_iff {settled : List String} {line : List Char} :
    unexported? settled line = none ↔
      ∀ name ∈ entryComponents, DeclaresComponent false name.toList line → name ∈ settled := by
  rw [Option.eq_none_iff_forall_ne_some]
  simp only [ne_eq, unexported?_eq_some_iff]
  constructor
  · intro h name hentry hline
    by_contra hsettled
    exact h name ⟨hline, hentry, hsettled⟩
  · rintro h name ⟨hline, hentry, hsettled⟩
    exact hsettled (h name hentry hline)

/-- **What silences the search for missing exports.**  Nothing is found in a file exactly if it
declares a default export, or if it is no application root and every entry component that a line
declares without `export` is the local name of an item of an export clause.  There is a critical
finding exactly about an application root that declares no default export. -/
theorem find_eq_nil_iff (path content : String) :
    (find path content = [] ↔
      DeclaresDefault content.toList ∨
        ¬ IsApplicationRoot path content.toList ∧
          ∀ line ∈ pieces '\n' content.toList, ∀ name ∈ entryComponents,
            DeclaresComponent false name.toList line →
              name.toList ∈ exportedNames content.toList) ∧
    ((∃ d ∈ find path content, d.severity = .critical) ↔
      IsApplicationRoot path content.toList ∧ ¬ DeclaresDefault content.toList) := by
  have hnamed (name : String) :
      name ∈ (exportedNames content.toList).map String.ofList ↔
        name.toList ∈ exportedNames content.toList := by
    rw [List.mem_map]
    constructor
    · rintro ⟨letters, hletters, rfl⟩
      rwa [String.toList_ofList]
    · intro h
      exact ⟨name.toList, h, String.ofList_toList⟩
  by_cases hdefault : DeclaresDefault content.toList
  · simp [find_of_declaresDefault hdefault, hdefault]
  by_cases hroot : IsApplicationRoot path content.toList
  · rw [find_of_root hdefault hroot]
    refine ⟨by simp [hdefault, hroot], iff_of_true ?_ ⟨hroot, hdefault⟩⟩
    exact ⟨missingRootExport path, by simp, rfl⟩
  · rw [find_of_not_root hdefault hroot, findingsFrom_eq_nil_iff]
    simp only [unexported?_eq_none_iff, hnamed]
    refine ⟨by simp [hdefault, hroot], iff_of_false ?_ fun h => hroot h.1⟩
    rintro ⟨d, hd, hcritical⟩
    rw [severity_of_mem_findingsFrom hd] at hcritical
    contradiction

/-- A file that exports its root component by default, in a clause. -/
def clauseOnly : String :=
  "function App() {}\nexport { App as default };\n"

lemma exportsDefault_clauseOnly : ExportsDefault clauseOnly.toList := by
  have hblank : AllBlank [' '] := allBlank_singleton rfl
  refine Or.inr ⟨"function App() {}\n".toList, ⟨[' '], hblank⟩, " App as default ".toList,
    ";\n".toList, by decide, by decide, ⟨" App as default ".toList, by decide, ?_⟩, rfl⟩
  exact ⟨"App".toList, ⟨[' '], hblank, by simp⟩, ⟨[' '], hblank, by simp⟩, by simp, rfl⟩

/-- **A default export in a clause silences nothing in an application root.**  The file exports its
root component by default, and there is a critical finding about it all the same. -/
theorem not_forall_default_silences :
    ¬ ∀ path content : String, ExportsDefault content.toList → find path content = [] := by
  intro h
  have hsilent := h "src/App.tsx" clauseOnly exportsDefault_clauseOnly
  have hdefault : ¬ DeclaresDefault clauseOnly.toList := by
    rw [← hasDefaultExport_iff]
    decide
  have hroot : IsApplicationRoot "src/App.tsx" clauseOnly.toList := by
    rw [← isRoot_iff]
    decide
  rw [find_of_root hdefault hroot] at hsilent
  exact List.append_ne_nil_of_right_ne_nil _ (List.cons_ne_nil _ _) hsilent

end ProjectCheck.MissingExport
