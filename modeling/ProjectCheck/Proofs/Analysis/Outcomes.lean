import ProjectCheck.Proofs.Analysis.Detectors

/-!
# The outcome of analysing a project

A project analysis runs its three detectors one after the other, and how they end decides everything
else: `Outcomes.report?` is the report they give, if they give one.  An analysis comes to that
report, or else to the report of the files in memory, and behind the detectors it does nothing but
write to the log (`runIn_project`).
-/

namespace ProjectCheck.Analysis

variable {τ : Type}

/-! ## Files in memory -/

/-- Analysing files in memory asks for nothing, and its report does not depend on the session. -/
lemma answers_fragment (a : Analyser) (files : List MemoryFile) (mode : Mode) (s : Session τ) :
    (fragment a files mode).Answers s (.ok (fragmentReport a.settings.detectors files mode).1)
      [] :=
  (Work.Answers.noteAll _ s).bind_quiet fun t => .pure _ t

/-! ## How the detectors end -/

/-- How the three detectors of a project analysis end. -/
structure Outcomes where
  compiler : Except Interruption (Option DetectorRun)
  lint : Except Interruption (Option DetectorRun)
  scan : Except Interruption (Option DetectorRun)

/-- What a detector has found; nothing if it was broken off or is switched off. -/
def findingsOf : Except Interruption (Option DetectorRun) → List Diagnostic
  | .ok (some run) => run.findings
  | _ => []

namespace Outcomes

/-- The report of detectors that have come to their end; nothing if one of them was broken off, or
if none has data. -/
def report? (o : Outcomes) : Option Report :=
  match allResults [o.compiler, o.lint, o.scan] with
  | .error _ => none
  | .ok results => reportOfRuns? (results.filterMap id)

/-- A report of detectors holds what they have found, in order. -/
lemma eq_of_report? {o : Outcomes} {report : Report} (h : o.report? = some report) :
    report = .ofFindings .hybrid
      (findingsOf o.compiler ++ findingsOf o.lint ++ findingsOf o.scan) := by
  obtain ⟨compiler, lint, scan⟩ := o
  rcases compiler with why | compiler
  · simp [report?, allResults, bind, Except.bind] at h
  rcases lint with why | lint
  · simp [report?, allResults, bind, Except.bind] at h
  rcases scan with why | scan
  · simp [report?, allResults, bind, Except.bind] at h
  replace h : reportOfRuns? ([compiler, lint, scan].filterMap id) = some report := h
  rw [reportOfRuns?] at h
  split at h
  · rw [← Option.some.inj h]
    cases compiler <;> cases lint <;> cases scan <;> simp [findingsOf]
  · simp at h

end Outcomes

variable [Sub τ] [LE τ] [DecidableLE τ]

/-- The session in which the project scan begins. -/
def beforeScan (a : Analyser) (client : Client) (sandbox : String) (s : Session τ) : Session τ :=
  ((runLint client a.settings.compiler sandbox).runIn
    ((runCompiler client a.settings.compiler sandbox).runIn s).2).2

/-- The session in which all detectors have come to their end. -/
def afterScan (a : Analyser) (client : Client) (sandbox : String) (s : Session τ) : Session τ :=
  ((runProjectScan a client sandbox).runIn (beforeScan a client sandbox s)).2

/-- How the detectors end that an analysis of a sandbox runs, one after the other. -/
def outcomesIn (a : Analyser) (client : Client) (sandbox : String) (s : Session τ) : Outcomes where
  compiler := ((runCompiler client a.settings.compiler sandbox).runIn s).1
  lint := ((runLint client a.settings.compiler sandbox).runIn
    ((runCompiler client a.settings.compiler sandbox).runIn s).2).1
  scan := ((runProjectScan a client sandbox).runIn (beforeScan a client sandbox s)).1

variable (a : Analyser) (client : Client) (sandbox : String) (s : Session τ)

omit [Sub τ] [LE τ] [DecidableLE τ] in
/-- Before the project scan there are the requests of the compiler and the linter, and nothing in the
session has changed but its log. -/
lemma exists_beforeScan_eq :
    ∃ entries, beforeScan a client sandbox s =
      s.since (lintRequest a.settings.compiler sandbox ++
        compilerRequest a.settings.compiler sandbox) entries := by
  obtain ⟨entries, hcompiler⟩ := answers_runCompiler client a.settings.compiler sandbox s
  obtain ⟨others, hlint⟩ := answers_runLint client a.settings.compiler sandbox
    (s.since (compilerRequest a.settings.compiler sandbox) entries)
  exact ⟨others ++ entries, by rw [beforeScan, hcompiler, hlint, Session.since_since]⟩

lemma outcomesIn_compiler :
    (outcomesIn a client sandbox s).compiler =
      compilerOutcome client a.settings.compiler sandbox s.journal :=
  (answers_runCompiler client a.settings.compiler sandbox s).fst_runIn

lemma outcomesIn_lint :
    (outcomesIn a client sandbox s).lint =
      lintOutcome client a.settings.compiler sandbox
        (compilerRequest a.settings.compiler sandbox ++ s.journal) := by
  obtain ⟨entries, hcompiler⟩ := answers_runCompiler client a.settings.compiler sandbox s
  rw [outcomesIn, hcompiler]
  exact (answers_runLint client a.settings.compiler sandbox _).fst_runIn

/-! ## What follows from that -/

/-- An attempt comes to the report of the detectors. -/
lemma runIn_attempt :
    ∃ entries, (attempt a client sandbox).runIn s =
      (.ok (outcomesIn a client sandbox s).report?,
        (afterScan a client sandbox s).since [] entries) := by
  rw [attempt, Work.runIn_settle_bind, inSandbox, Work.runIn_settle_bind, Work.runIn_settle_bind,
    Work.runIn_settle_bind]
  rw [Outcomes.report?, outcomesIn, afterScan, beforeScan]
  generalize (runProjectScan a client sandbox : Work τ _).runIn _ = scanned
  generalize (runLint client a.settings.compiler sandbox : Work τ _).runIn _ = linted
  generalize (runCompiler client a.settings.compiler sandbox).runIn s = compiled
  cases allResults [compiled.1, linted.1, scanned.1] with
  | error why => exact ⟨[_], rfl⟩
  | ok results =>
    dsimp only
    cases reportOfRuns? (results.filterMap id) with
    | some report => exact ⟨[], rfl⟩
    | none => exact ⟨[_], rfl⟩

/-- **The outcome of analysing a project.**  With a client it is the report of the detectors if they
give one, and else, as without a client, the report of the files in memory. -/
theorem runIn_project (files : List MemoryFile) :
    ∃ entries, (project a files sandbox).runIn s =
      (.ok ((a.client.bind fun client => (outcomesIn a client sandbox s).report?).getD
          (fragmentReport a.settings.detectors files .fallback).1),
        ((a.client.map fun client => afterScan a client sandbox s).getD s).since [] entries) := by
  have hfallback (entry : LogEntry) (t : Session τ) :
      (Work.note entry >>= fun _ => fragment a files .fallback : Work τ Report).Answers t
        (.ok (fragmentReport a.settings.detectors files .fallback).1) [] :=
    (Work.Answers.note entry t).bind_quiet (answers_fragment a files .fallback)
  rw [project]
  cases a.client with
  | none => exact hfallback _ s
  | some client =>
    obtain ⟨entries, hattempt⟩ := runIn_attempt a client sandbox s
    dsimp only
    rw [Work.runIn_bind_of_ok hattempt]
    simp only [Option.bind_some, Option.map_some, Option.getD_some]
    cases (outcomesIn a client sandbox s).report? with
    | some report => exact ⟨_ :: entries, rfl⟩
    | none =>
      obtain ⟨others, hfragment⟩ := hfallback
        (.error "hybrid_analysis_fallback" [sandboxField sandbox])
        ((afterScan a client sandbox s).since [] entries)
      exact ⟨others ++ entries, hfragment.trans (by simp)⟩

end ProjectCheck.Analysis
