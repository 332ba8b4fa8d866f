import Mathlib.Tactic.Tauto
import ProjectCheck.Proofs.Analysis.Outcomes
import ProjectCheck.Proofs.Analysis.Subjects
import ProjectCheck.Proofs.Content.LineByLine

/-!
# Files are analysed one by one

Analysing files in memory goes through the source files one after the other, and no file has a say
in what is found in another: each group of the report is made of what the detectors find in each
file, in the order of the files (`build_textReport`, `imports_textReport`, `navigation_textReport`),
and each finding names the file that it was found in (`file_of_mem_textReport`).  So files in two
parts have the findings of both parts in a row.

The summary of a report does depend on all of its findings.  Its severity is the least bound of
their ranks (`Report.rank_severity_le_iff`), which is all that later lemmas use of it.
-/

namespace ProjectCheck

/-! ## Severities -/

namespace Severity

lemma eq_of_rank_eq {a b : Severity} (h : a.rank = b.rank) : a = b := by
  cases a <;> cases b <;> first | rfl | contradiction

lemma rank_higher (a b : Severity) : (higher a b).rank = max a.rank b.rank := by
  rw [higher]
  split <;> omega

lemma rank_foldl_higher_le_iff {severities : List Severity} {s : Severity} {bound : Nat} :
    (severities.foldl higher s).rank ≤ bound ↔
      s.rank ≤ bound ∧ ∀ t ∈ severities, t.rank ≤ bound := by
  induction severities generalizing s with
  | nil => simp
  | cons t rest ih =>
    rw [List.foldl_cons, ih, rank_higher, List.forall_mem_cons, ← and_assoc, Nat.max_le]

/-- The highest of some severities is bounded exactly by what bounds all of them. -/
lemma rank_highest_le_iff {severities : List Severity} {bound : Nat} :
    (highest severities).rank ≤ bound ↔ ∀ t ∈ severities, t.rank ≤ bound := by
  rw [highest, rank_foldl_higher_le_iff]
  exact and_iff_right (Nat.zero_le bound)

lemma foldl_higher_mem (severities : List Severity) (s : Severity) :
    severities.foldl higher s ∈ s :: severities := by
  induction severities generalizing s with
  | nil => simp
  | cons t rest ih =>
    have hhigher : higher s t = s ∨ higher s t = t := by
      rw [higher]
      split
      · exact Or.inr rfl
      · exact Or.inl rfl
    rw [List.foldl_cons]
    rcases hhigher with h | h
    · rw [h]
      exact List.cons_subset_cons s (List.subset_cons_self t rest) (ih s)
    · rw [h]
      exact List.mem_cons_of_mem s (ih t)

/-- The highest of some severities is one of them. -/
lemma highest_mem {severities : List Severity} (h : severities ≠ []) :
    highest severities ∈ severities := by
  obtain ⟨t, rest, rfl⟩ := List.exists_cons_of_ne_nil h
  have hlow : higher low t = t := by cases t <;> rfl
  rw [highest, List.foldl_cons, hlow]
  exact foldl_higher_mem rest t

lemma isBlocking_iff {s : Severity} : s.isBlocking = true ↔ s = high ∨ s = critical := by
  cases s <;> decide

end Severity

/-! ## The summary of a report -/

namespace Report

/-- The severity of a report is bounded exactly by what bounds its findings. -/
lemma rank_severity_le_iff {r : Report} {bound : Nat} :
    r.severity.rank ≤ bound ↔ ∀ d ∈ r.counted, d.severity.rank ≤ bound := by
  rw [severity, Severity.rank_highest_le_iff, List.forall_mem_map]

lemma rank_le_rank_severity {r : Report} {d : Diagnostic} (h : d ∈ r.counted) :
    d.severity.rank ≤ r.severity.rank :=
  rank_severity_le_iff.1 (Nat.le_refl _) d h

lemma exists_severity_eq {r : Report} (h : r.counted ≠ []) :
    ∃ d ∈ r.counted, d.severity = r.severity :=
  List.mem_map.1 (Severity.highest_mem (by simpa using h))

lemma severity_of_counted_nil {r : Report} (h : r.counted = []) : r.severity = .low := by
  rw [severity, h]
  rfl

/-- A report stops further work if one of its findings does. -/
lemma isBlocking_iff {r : Report} :
    r.isBlocking = true ↔ ∃ d ∈ r.counted, d.severity = .high ∨ d.severity = .critical := by
  rw [isBlocking]
  constructor
  · intro hblocking
    have hfound : r.counted ≠ [] := by
      intro hnone
      rw [severity_of_counted_nil hnone] at hblocking
      contradiction
    obtain ⟨d, hd, hseverity⟩ := exists_severity_eq hfound
    exact ⟨d, hd, Severity.isBlocking_iff.1 (hseverity ▸ hblocking)⟩
  · rintro ⟨d, hd, hurgent⟩
    have hblocking : Severity.high.rank ≤ d.severity.rank :=
      of_decide_eq_true (Severity.isBlocking_iff.2 hurgent)
    exact decide_eq_true (Nat.le_trans hblocking (rank_le_rank_severity hd))

end Report

/-! ## The file of a finding -/

lemma Content.file_of_mem_scanLines {rules : List Rule} {path : String} {number : Nat}
    {lines : List (List Char)} :
    ∀ d ∈ scanLines rules path number lines, d.file = .text path := by
  intro d hd
  obtain ⟨i, line, rule, -, -, rfl⟩ := mem_scanLines_iff.1 hd
  rfl

lemma MissingExport.file_of_mem_find {path content : String} :
    ∀ d ∈ find path content, d.file = .text path :=
  forall_mem_find (fun _ _ _ => rfl) rfl

lemma MissingImport.file_of_mem_findAlone {path content : String} :
    ∀ d ∈ findAlone path content, d.file = .text path := by
  intro d hd
  rcases List.mem_append.1 hd with hd | hd
  · obtain ⟨found, -, rfl⟩ := List.mem_map.1 hd
    rfl
  · exact MissingExport.file_of_mem_find d hd

lemma Navigation.file_of_mem_find {path content : String} :
    ∀ d ∈ find path content, d.file = .text path := by
  intro d hd
  obtain ⟨link, -, rfl⟩ := List.mem_map.1 hd
  rfl

/-! ## Files with a text -/

namespace Analysis

/-- Files in memory, each with its text. -/
def withTexts (files : List (String × String)) : List MemoryFile :=
  files.map fun file => ⟨file.1, some file.2⟩

/-- The report of files with a text. -/
def textReport (a : Analyser) (files : List (String × String)) (mode : Mode) : Report :=
  (fragmentReport a.settings.detectors (withTexts files) mode).1

/-- The source files among some files. -/
def sourceTexts (files : List (String × String)) : List (String × String) :=
  files.filter fun file => Path.isSource file.1

lemma sourcesOf_withTexts (files : List (String × String)) :
    sourcesOf (withTexts files) = withTexts (sourceTexts files) := by
  rw [sourcesOf, withTexts, withTexts, sourceTexts, List.filter_map]
  rfl

/-- A detector goes through files with a text without missing any. -/
lemma detect?_withTexts (detector : String → String → List Diagnostic)
    (files : List (String × String)) :
    detect? detector (withTexts files) = some (files.flatMap fun file => detector file.1 file.2) := by
  induction files with
  | nil => rfl
  | cons file rest ih =>
    rw [withTexts, List.map_cons, detect?]
    change (detect? detector (withTexts rest)).bind _ = _
    rw [ih]
    rfl

variable (a : Analyser) (mode : Mode)

/-- Each group of the report is made of what its detector finds in each source file. -/
lemma textReport_eq (files : List (String × String)) :
    textReport a files mode =
      { build := (sourceTexts files).flatMap fun file =>
          contentDetector a.settings.detectors file.1 file.2
        imports := (sourceTexts files).flatMap fun file => MissingImport.findAlone file.1 file.2
        navigation := (sourceTexts files).flatMap fun file => Navigation.find file.1 file.2
        mode } := by
  rw [textReport, fragmentReport, sourcesOf_withTexts]
  simp only [detect?_withTexts, Option.getD_some]

lemma sourceTexts_append (f g : List (String × String)) :
    sourceTexts (f ++ g) = sourceTexts f ++ sourceTexts g :=
  List.filter_append ..

/-- Files in two parts have the findings of both parts. -/
lemma mem_counted_textReport_append_iff (f g : List (String × String)) {d : Diagnostic} :
    d ∈ (textReport a (f ++ g) mode).counted ↔
      d ∈ (textReport a f mode).counted ∨ d ∈ (textReport a g mode).counted := by
  simp only [textReport_eq, Report.counted, sourceTexts_append, List.flatMap_append,
    List.mem_append]
  tauto

/-- The severity of files in two parts is the higher one of the parts. -/
lemma rank_severity_textReport_append (f g : List (String × String)) :
    (textReport a (f ++ g) mode).severity.rank =
      max (textReport a f mode).severity.rank (textReport a g mode).severity.rank := by
  have hbound (bound : Nat) : (textReport a (f ++ g) mode).severity.rank ≤ bound ↔
      max (textReport a f mode).severity.rank (textReport a g mode).severity.rank ≤ bound := by
    rw [Nat.max_le]
    simp only [Report.rank_severity_le_iff, mem_counted_textReport_append_iff, or_imp, forall_and]
  exact Nat.le_antisymm ((hbound _).2 (Nat.le_refl _)) ((hbound _).1 (Nat.le_refl _))

lemma autoFixable_textReport_append (f g : List (String × String)) :
    (textReport a (f ++ g) mode).autoFixable =
      ((textReport a f mode).autoFixable || (textReport a g mode).autoFixable) := by
  rw [Bool.eq_iff_iff, Bool.or_eq_true]
  simp only [Report.autoFixable, List.any_eq_true, mem_counted_textReport_append_iff, or_and_right,
    exists_or]

/-- A file that is no source file has no findings. -/
lemma counted_textReport_of_not_isSource {path : String} (h : Path.isSource path = false)
    (text : String) : (textReport a [(path, text)] mode).counted = [] := by
  have hsources : sourceTexts [(path, text)] = [] := by
    simp [sourceTexts, h]
  rw [textReport_eq, hsources]
  rfl

/-- A finding names the file that it was found in. -/
lemma file_of_mem_textReport {path text : String} {d : Diagnostic}
    (h : d ∈ (textReport a [(path, text)] mode).counted) : d.file = .text path := by
  cases hsource : Path.isSource path with
  | false =>
    rw [counted_textReport_of_not_isSource a mode hsource] at h
    contradiction
  | true =>
    have hsources : sourceTexts [(path, text)] = [(path, text)] := by
      simp [sourceTexts, hsource]
    rw [textReport_eq, hsources] at h
    simp only [Report.counted, List.flatMap_singleton, List.mem_append, contentDetector] at h
    rcases h with ((h | h) | h) | h
    · exact Content.file_of_mem_scanLines d h
    · split at h
      · exact Content.file_of_mem_scanLines d h
      · contradiction
    · exact MissingImport.file_of_mem_findAlone d h
    · exact Navigation.file_of_mem_find d h

/-- **The analysis of files in memory takes them one by one.**  It comes to a report from any session,
and files in two parts have the findings of the first part and then those of the second, in each
group; the summary of both follows from the summaries of the parts.  A file without the extension of
a source file contributes nothing, and every finding names the file that it was found in.

The severity of any report is the highest of its build, import and navigation findings, `low` if there
is none; the report stops further work if one of them is `high` or `critical`; and what happened while
a page ran counts for nothing. -/
theorem fragment_takes_files_apart {τ : Type} (f g : List (String × String)) :
    (∀ (files : List (String × String)) (s : Session τ),
      ((fragment a (withTexts files) mode).runIn s).1 = .ok (textReport a files mode)) ∧
    (textReport a (f ++ g) mode).build =
      (textReport a f mode).build ++ (textReport a g mode).build ∧
    (textReport a (f ++ g) mode).imports =
      (textReport a f mode).imports ++ (textReport a g mode).imports ∧
    (textReport a (f ++ g) mode).navigation =
      (textReport a f mode).navigation ++ (textReport a g mode).navigation ∧
    (textReport a (f ++ g) mode).total = (textReport a f mode).total + (textReport a g mode).total ∧
    (textReport a (f ++ g) mode).severity.rank =
      max (textReport a f mode).severity.rank (textReport a g mode).severity.rank ∧
    (textReport a (f ++ g) mode).autoFixable =
      ((textReport a f mode).autoFixable || (textReport a g mode).autoFixable) ∧
    (∀ path text, (∀ extension ∈ [".ts", ".tsx", ".js", ".jsx"],
        ¬ extension.toList <:+ path.toList) →
      (textReport a [(path, text)] mode).counted = []) ∧
    (∀ path text, ∀ d ∈ (textReport a [(path, text)] mode).counted, d.file = .text path) ∧
    ∀ r : Report, let findings := r.build ++ r.imports ++ r.navigation
      (∀ d ∈ findings, d.severity.rank ≤ r.severity.rank) ∧
      (findings ≠ [] → ∃ d ∈ findings, d.severity = r.severity) ∧
      (findings = [] → r.severity = .low) ∧
      (r.isBlocking = true ↔ ∃ d ∈ findings, d.severity = .high ∨ d.severity = .critical) ∧
      ∀ runtime, let report : Report := { r with runtime }
        report.severity = r.severity ∧ report.isBlocking = r.isBlocking ∧
          report.autoFixable = r.autoFixable ∧ report.total = r.total := by
  refine ⟨fun files s => (answers_fragment a (withTexts files) mode s).fst_runIn, ?_, ?_, ?_, ?_,
    rank_severity_textReport_append a mode f g, autoFixable_textReport_append a mode f g,
    fun path text hpath => counted_textReport_of_not_isSource a mode ?_ text,
    fun path text d => file_of_mem_textReport a mode, fun r => ?_⟩
  · simp only [textReport_eq, sourceTexts_append, List.flatMap_append]
  · simp only [textReport_eq, sourceTexts_append, List.flatMap_append]
  · simp only [textReport_eq, sourceTexts_append, List.flatMap_append]
  · simp only [Report.total, textReport_eq, sourceTexts_append, List.flatMap_append,
      List.length_append]
    omega
  · rw [Path.isSource, List.any_eq_false]
    intro extension hextension
    rw [List.isSuffixOf_iff_suffix]
    exact hpath extension hextension
  · exact ⟨fun d => Report.rank_le_rank_severity, Report.exists_severity_eq,
      Report.severity_of_counted_nil, Report.isBlocking_iff, fun runtime => ⟨rfl, rfl, rfl, rfl⟩⟩

end Analysis

end ProjectCheck
