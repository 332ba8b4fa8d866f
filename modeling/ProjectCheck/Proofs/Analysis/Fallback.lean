import Mathlib.Logic.Basic
import Mathlib.Tactic.ByContra
import ProjectCheck.Analysis.SingleFile
import ProjectCheck.Proofs.Analysis.Outcomes
import ProjectCheck.Proofs.Analysis.Subjects

/-!
# When an analysis falls back

No analysis is ever broken off: each comes to a report or to findings, from any session and with any
client (`every_analysis_reports`).  A project analysis falls back to the files in memory exactly if
there is no client, or a detector was broken off, or no detector that is switched on has data
(`report?_eq_none_iff`), and then its report holds what the analysis of those files finds, whatever
the sandbox answered.
-/

namespace ProjectCheck.Analysis

open ProjectCheck.Sandbox

/-! ## Detectors that give nothing -/

/-- A detector was broken off. -/
def IsBrokenOff (outcome : Except Interruption (Option DetectorRun)) : Prop :=
  ∃ why, outcome = .error why

/-- A detector came to its end and has no data. -/
def HasNoData (outcome : Except Interruption (Option DetectorRun)) : Prop :=
  ∃ run, outcome = .ok (some run) ∧ run.hasData = false

/-- A detector was broken off, or none of those that are switched on has data. -/
def Outcomes.GiveNothing (settings : CompilerSettings) (o : Outcomes) : Prop :=
  (IsBrokenOff o.compiler ∨ IsBrokenOff o.lint ∨ IsBrokenOff o.scan) ∨
    (settings.enabled = true → HasNoData o.compiler) ∧
      ((lintCommandOf settings).isSome = true → HasNoData o.lint) ∧ HasNoData o.scan

lemma reportOfRuns?_eq_none_iff {runs : List DetectorRun} :
    reportOfRuns? runs = none ↔ ∀ run ∈ runs, run.hasData = false := by
  rw [reportOfRuns?]
  split
  next hany =>
    obtain ⟨run, hrun, hdata⟩ := List.any_eq_true.1 hany
    simp only [reduceCtorEq, false_iff]
    intro hnone
    rw [hnone run hrun] at hdata
    exact absurd hdata (by simp)
  next hany => simpa using hany

lemma mode_of_reportOfRuns? {runs : List DetectorRun} {report : Report}
    (h : reportOfRuns? runs = some report) : report.mode = .hybrid := by
  rw [reportOfRuns?] at h
  split at h
  · rw [← Option.some.inj h]
    rfl
  · simp at h

lemma mode_of_report? {o : Outcomes} {report : Report} (h : o.report? = some report) :
    report.mode = .hybrid := by
  rw [Outcomes.report?] at h
  split at h
  · simp at h
  · exact mode_of_reportOfRuns? h

/-- Detectors give no report if one of them was broken off, or if all runs there are have no data. -/
lemma report?_eq_none_iff_runs {o : Outcomes} :
    o.report? = none ↔
      (IsBrokenOff o.compiler ∨ IsBrokenOff o.lint ∨ IsBrokenOff o.scan) ∨
        ∀ outcome ∈ [o.compiler, o.lint, o.scan], ∀ run, outcome = .ok (some run) →
          run.hasData = false := by
  obtain ⟨compiler, lint, scan⟩ := o
  rw [Outcomes.report?]
  dsimp only
  rcases compiler with why | compiler
  · exact iff_of_true rfl (Or.inl (Or.inl ⟨why, rfl⟩))
  rcases lint with why | lint
  · exact iff_of_true rfl (Or.inl (Or.inr (Or.inl ⟨why, rfl⟩)))
  rcases scan with why | scan
  · exact iff_of_true rfl (Or.inl (Or.inr (Or.inr ⟨why, rfl⟩)))
  change reportOfRuns? ([compiler, lint, scan].filterMap id) = none ↔ _
  rw [reportOfRuns?_eq_none_iff]
  simp [IsBrokenOff, or_imp, forall_and, @eq_comm _ (some _)]

/-! ## Detectors that are switched on -/

lemma runOf_ne_nothing (detector : SandboxDetector)
    (verdict : CommandResult → Except Interruption DetectorRun)
    (outcome : Except Interruption CommandResult) :
    runOf detector verdict outcome ≠ .ok none := by
  cases outcome with
  | ok result =>
    rw [runOf]
    cases verdict result <;> simp [Except.map]
  | error why =>
    simp only [runOf]
    split <;> simp

/-- The compiler ends with nothing if it is switched off. -/
lemma compilerOutcome_eq_nothing_iff {client : Client} {settings : CompilerSettings}
    {sandbox : String} {earlier : List Call} :
    compilerOutcome client settings sandbox earlier = .ok none ↔ settings.enabled = false := by
  rw [compilerOutcome]
  cases settings.enabled with
  | true => simpa using runOf_ne_nothing _ _ _
  | false => simp

/-- The linter ends with nothing if no command is set. -/
lemma lintOutcome_eq_nothing_iff {client : Client} {settings : CompilerSettings}
    {sandbox : String} {earlier : List Call} :
    lintOutcome client settings sandbox earlier = .ok none ↔ lintCommandOf settings = none := by
  rw [lintOutcome]
  cases lintCommandOf settings with
  | some command => simpa using runOf_ne_nothing _ _ _
  | none => simp

/-- A detector that was not broken off has no data, or is switched off. -/
lemma hasNoData_iff_of_nothing_iff {outcome : Except Interruption (Option DetectorRun)} {on : Prop}
    (hon : outcome = .ok none ↔ ¬ on) (hbroken : ¬ IsBrokenOff outcome) :
    (on → HasNoData outcome) ↔ ∀ run, outcome = .ok (some run) → run.hasData = false := by
  constructor
  · rintro h run rfl
    have hrun : on := by
      by_contra hoff
      exact absurd (hon.2 hoff) (by simp)
    obtain ⟨other, hother, hdata⟩ := h hrun
    rwa [Option.some.inj (Except.ok.inj hother)]
  · intro h hrun
    rcases outcome with why | (_ | run)
    · exact absurd ⟨why, rfl⟩ hbroken
    · exact absurd hrun (hon.1 rfl)
    · exact ⟨run, rfl, h run rfl⟩

variable {τ : Type} [Sub τ] [LE τ] [DecidableLE τ]

/-- The project scan never ends with nothing. -/
lemma outcomesIn_scan_ne_nothing (a : Analyser) (client : Client) (sandbox : String)
    (s : Session τ) : (outcomesIn a client sandbox s).scan ≠ .ok none := by
  intro h
  obtain ⟨run, hrun, -⟩ := gives_runProjectScan a client sandbox h
  simp at hrun

/-- An analysis has no report of its detectors exactly if one of them was broken off, or none of
those that are switched on has data. -/
theorem report?_eq_none_iff (a : Analyser) (client : Client) (sandbox : String) (s : Session τ) :
    (outcomesIn a client sandbox s).report? = none ↔
      (outcomesIn a client sandbox s).GiveNothing a.settings.compiler := by
  have hcompilerOn : (outcomesIn a client sandbox s).compiler = .ok none ↔
      ¬ a.settings.compiler.enabled = true := by
    rw [outcomesIn_compiler, compilerOutcome_eq_nothing_iff, Bool.not_eq_true]
  have hlintOn : (outcomesIn a client sandbox s).lint = .ok none ↔
      ¬ (lintCommandOf a.settings.compiler).isSome = true := by
    rw [outcomesIn_lint, lintOutcome_eq_nothing_iff, Option.not_isSome_iff_eq_none]
  have hscanOn : (outcomesIn a client sandbox s).scan = .ok none ↔ ¬ True := by
    simpa using outcomesIn_scan_ne_nothing a client sandbox s
  rw [report?_eq_none_iff_runs, Outcomes.GiveNothing]
  refine or_congr_right' fun hbroken => ?_
  rw [not_or, not_or] at hbroken
  obtain ⟨hcompiler, hlint, hscan⟩ := hbroken
  have hscanData := hasNoData_iff_of_nothing_iff hscanOn hscan
  rw [true_imp_iff] at hscanData
  rw [hasNoData_iff_of_nothing_iff hcompilerOn hcompiler, hasNoData_iff_of_nothing_iff hlintOn hlint,
    hscanData]
  simp

/-! ## Every analysis reports -/

/-- Looking for the imports of a file is never broken off. -/
lemma exists_fileImports (a : Analyser) (file : MemoryFile) (sandbox : Option String)
    (s : Session τ) : ∃ findings, ((fileImports a file sandbox).runIn s).1 = .ok findings := by
  rw [fileImports, Work.runIn_settle_bind]
  rcases (findImports a file sandbox).runIn s with ⟨why | findings, t⟩
  · exact ⟨[], rfl⟩
  · exact ⟨findings, rfl⟩

/-- **No analysis is broken off, and one that falls back reports the files in memory.**  Whatever
the settings are and whatever the client answers or fails to answer, each analysis comes to its end
with a report or with findings.  A project analysis has fallen back exactly if there is no client,
or a detector was broken off, or no detector that is switched on has data; otherwise it is hybrid.
If it has fallen back, its report holds exactly what the analysis of the files in memory reports, in
whatever session that is done. -/
theorem every_analysis_reports (a : Analyser) (files : List MemoryFile) (file : MemoryFile)
    (place : Option String) (sandbox : String) (s : Session τ) :
    (∃ alone, ((fragment a files).runIn s).1 = .ok alone ∧ alone.mode = .fragment) ∧
    (∃ findings, ((fileImports a file place).runIn s).1 = .ok findings) ∧
    ∃ report, ((project a files sandbox).runIn s).1 = .ok report ∧
      report.mode ≠ .fragment ∧
      (report.mode = .fallback ↔
        a.client = none ∨ ∃ client, a.client = some client ∧
          (outcomesIn a client sandbox s).GiveNothing a.settings.compiler) ∧
      (report.mode ≠ .fallback → report.mode = .hybrid) ∧
      (report.mode = .fallback → ∀ t : Session τ, ∃ alone,
        ((fragment a files).runIn t).1 = .ok alone ∧
          report.build = alone.build ∧ report.runtime = alone.runtime ∧
          report.imports = alone.imports ∧ report.navigation = alone.navigation ∧
          report.severity = alone.severity ∧ report.autoFixable = alone.autoFixable ∧
          report.total = alone.total) := by
  refine ⟨⟨_, (answers_fragment a files .fragment s).fst_runIn, rfl⟩,
    exists_fileImports a file place s, ?_⟩
  obtain ⟨entries, hproject⟩ := runIn_project a sandbox s files
  refine ⟨_, congrArg Prod.fst hproject, ?_⟩
  cases hclient : a.client with
  | none =>
    refine ⟨by simp [fragmentReport], iff_of_true rfl (Or.inl rfl), fun h => absurd rfl h, ?_⟩
    exact fun _ t =>
      ⟨_, (answers_fragment a files .fragment t).fst_runIn, rfl, rfl, rfl, rfl, rfl, rfl, rfl⟩
  | some client =>
    have hnothing := report?_eq_none_iff a client sandbox s
    simp only [Option.bind_some, reduceCtorEq, false_or, Option.some.injEq, exists_eq_left']
    rw [← hnothing]
    cases hreport : (outcomesIn a client sandbox s).report? with
    | some report =>
      have hmode := mode_of_report? hreport
      simp [hmode]
    | none =>
      refine ⟨by simp [fragmentReport], iff_of_true rfl rfl, fun h => absurd rfl h, ?_⟩
      exact fun _ t =>
        ⟨_, (answers_fragment a files .fragment t).fst_runIn, rfl, rfl, rfl, rfl, rfl, rfl, rfl⟩

end ProjectCheck.Analysis
