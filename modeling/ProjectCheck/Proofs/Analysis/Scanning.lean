import ProjectCheck.Proofs.Analysis.History
import ProjectCheck.Proofs.Manifest.Loading

/-!
# What a project scan does

A project scan runs two commands and loads the manifest, and goes on only if both commands were run
(`runIn_runProjectScan`).  Then it has data (`runProjectScan_of_seen`), and it remembers the tree of
its listing or, if the listing failed without output, forgets the tree.  If one of the commands was
broken off, it leaves the trees as they were (`trees_project`).
-/

namespace ProjectCheck

open ProjectCheck.Scan

variable {τ : Type} [Sub τ] [LE τ] [DecidableLE τ]

namespace Analysis

/-! ## What a scan leaves behind -/

/-- What a project scan sees: a listing and the selected files, or why one of them is missing. -/
def seenByScan (client : Client) (settings : ScannerSettings) (sandbox : String)
    (earlier : List Call) : Except Interruption (Option FileTree × Stream) :=
  both (listingOutcome client settings sandbox earlier)
    (readingOutcome client settings sandbox (listingRequest settings sandbox ++ earlier))

/-- The remembered trees after a scan of a sandbox. -/
def treesAfter (sandbox : String) (now : τ) :
    Except Interruption (Option FileTree × Stream) → Cache τ String FileTree →
      Cache τ String FileTree
  | .ok (some tree, _), trees => trees.put sandbox (some tree) now
  | .ok (none, _), trees => trees.invalidate (some sandbox)
  | .error _, trees => trees

/-- Checking the files of a scan leaves the trees and the time as they are. -/
lemma trees_checkScannedFiles (client : Client) (settings : Settings) (sandbox : String)
    (tree : Option FileTree) (files : List ScannedFile) (s : Session τ) :
    ((checkScannedFiles (Analyser.resolver ⟨some client, settings⟩) sandbox tree files).runIn
        s).2.trees = s.trees ∧
      ((checkScannedFiles (Analyser.resolver ⟨some client, settings⟩) sandbox tree files).runIn
        s).2.now = s.now := by
  let unchanged (t : Session τ) : Prop := t.trees = s.trees ∧ t.now = s.now
  have hload : (Manifest.load client settings.resolver.manifestPath sandbox).Keeps unchanged := by
    rintro t ⟨htrees, hnow⟩
    obtain ⟨hsame, hclock⟩ :=
      Manifest.trees_load client settings.resolver.manifestPath sandbox t
    exact ⟨hsame.trans htrees, hclock.trans hnow⟩
  have hshow := showAlike_of_keeps (I := unchanged) (fun _ _ _ ht => ht) hload tree
  exact (agree_checkScannedFiles hshow settings.resolver.aliasLead files).keeps ⟨rfl, rfl⟩

variable {client : Client} {settings : Settings}

lemma trees_checkStream (sandbox : String) (tree : Option FileTree) (stream : Stream)
    (s : Session τ) :
    ((checkStream ⟨some client, settings⟩ sandbox tree stream).runIn s).2.trees =
      treesAfter sandbox s.now (.ok (tree, stream)) s.trees := by
  -- the tree is remembered before the files are checked, and checking them changes no tree
  let remembering := ((rememberTree sandbox tree).runIn s).2
  have hremember : (rememberTree sandbox tree).runIn s = (.ok (), remembering) := rfl
  have hfiles :=
    (trees_checkScannedFiles client settings sandbox tree stream.files remembering).1
  have htrees : remembering.trees = treesAfter sandbox s.now (.ok (tree, stream)) s.trees := by
    cases tree <;> rfl
  rw [checkStream, Work.runIn_bind_of_ok hremember, Work.runIn_bind, ← htrees, ← hfiles]
  rcases (checkScannedFiles _ sandbox tree stream.files).runIn remembering with ⟨_ | _, t⟩ <;> rfl

/-- What a project scan does when it has what it can see, or knows what is missing. -/
def goOn (a : Analyser) (sandbox : String) :
    Except Interruption (Option FileTree × Stream) → Work τ (Option DetectorRun)
  | .ok (tree, stream) => checkStream a sandbox tree stream
  | .error why =>
    if why.isNoData then
      endWithoutData .projectScan (.warning "project_scan_unavailable" [sandboxField sandbox])
    else throw why

/-- The requests of a project scan that are commands, the latest first. -/
def scanRequests (settings : ScannerSettings) (sandbox : String) : List Call :=
  readingRequest settings sandbox ++ listingRequest settings sandbox

/-- A project scan first gets all it can see and loads the manifest. -/
lemma runIn_runProjectScan (client : Client) (settings : Settings) (sandbox : String)
    (s : Session τ) :
    ∃ entries, (runProjectScan ⟨some client, settings⟩ client sandbox).runIn s =
      (goOn ⟨some client, settings⟩ sandbox
        (seenByScan client settings.scanner sandbox s.journal)).runIn
          ((Manifest.load client settings.resolver.manifestPath sandbox).runIn
            (s.since (scanRequests settings.scanner sandbox) entries)).2 := by
  obtain ⟨entries, hlisting⟩ := answers_listFiles client settings.scanner sandbox s
  obtain ⟨others, hreading⟩ := answers_readFiles client settings.scanner sandbox
    (s.since (listingRequest settings.scanner sandbox) entries)
  refine ⟨others ++ entries, ?_⟩
  rw [runProjectScan, Work.runIn_settle_bind, hlisting, Work.runIn_settle_bind, hreading,
    Work.runIn_settle_bind, Session.since_since]
  rfl

/-- A project scan remembers the tree of its listing, forgets the tree if the listing failed
without output, and leaves the trees as they are if one of its commands was broken off. -/
theorem trees_runProjectScan (sandbox : String) (s : Session τ) :
    ((runProjectScan ⟨some client, settings⟩ client sandbox).runIn s).2.trees =
      treesAfter sandbox s.now (seenByScan client settings.scanner sandbox s.journal) s.trees := by
  obtain ⟨entries, hrun⟩ := runIn_runProjectScan client settings sandbox s
  obtain ⟨htrees, hnow⟩ := Manifest.trees_load client settings.resolver.manifestPath sandbox
    (s.since (scanRequests settings.scanner sandbox) entries)
  rw [Session.trees_since] at htrees
  rw [Session.now_since] at hnow
  rw [hrun, ← htrees, ← hnow]
  rcases seenByScan client settings.scanner sandbox s.journal with why | ⟨tree, stream⟩
  · rw [goOn]
    split <;> rfl
  · exact trees_checkStream sandbox tree stream _

/-! ## Completed scans -/

lemma exists_checkScannedFile (resolver : Resolver) (sandbox : String) (tree : Option FileTree)
    (file : ScannedFile) (s : Session τ) :
    ∃ findings t, (checkScannedFile resolver sandbox tree file).runIn s = (.ok findings, t) := by
  rw [checkScannedFile, Work.runIn_settle_bind]
  rcases (MissingImport.find (some resolver) file.path file.content (some sandbox) tree).runIn s with
    ⟨why | findings, t⟩
  · exact ⟨[], _, rfl⟩
  · exact ⟨findings, t, rfl⟩

/-- Checking the files of a scan is never broken off. -/
lemma exists_checkScannedFiles (resolver : Resolver) (sandbox : String) (tree : Option FileTree)
    (files : List ScannedFile) (s : Session τ) :
    ∃ findings t, (checkScannedFiles resolver sandbox tree files).runIn s = (.ok findings, t) := by
  induction files generalizing s with
  | nil => exact ⟨[], s, rfl⟩
  | cons file rest ih =>
    obtain ⟨findings, t, hfile⟩ := exists_checkScannedFile resolver sandbox tree file s
    obtain ⟨others, u, hrest⟩ := ih t
    refine ⟨findings ++ others, u, ?_⟩
    rw [checkScannedFiles, Work.runIn_bind_of_ok hfile, Work.runIn_bind_of_ok hrest]
    rfl

/-- A project scan whose commands were both run has data. -/
theorem runProjectScan_of_seen {sandbox : String} {s : Session τ}
    {seen : Option FileTree × Stream}
    (h : seenByScan client settings.scanner sandbox s.journal = .ok seen) :
    ∃ findings, ((runProjectScan ⟨some client, settings⟩ client sandbox).runIn s).1 =
      .ok (some { detector := .projectScan, findings }) := by
  obtain ⟨entries, hrun⟩ := runIn_runProjectScan client settings sandbox s
  let t := ((Manifest.load client settings.resolver.manifestPath sandbox).runIn
    (s.since (scanRequests settings.scanner sandbox) entries)).2
  let remembering := ((rememberTree sandbox seen.1).runIn t).2
  have hremember : (rememberTree sandbox seen.1).runIn t = (.ok (), remembering) := rfl
  obtain ⟨findings, u, hfiles⟩ := exists_checkScannedFiles
    (Analyser.resolver ⟨some client, settings⟩) sandbox seen.1 seen.2.files remembering
  rw [hrun, h, goOn, checkStream, Work.runIn_bind_of_ok hremember, Work.runIn_bind_of_ok hfiles]
  exact ⟨_, rfl⟩

/-- The requests of a project analysis before its scan, the latest first. -/
def requestsBeforeScan (settings : CompilerSettings) (sandbox : String) : List Call :=
  lintRequest settings sandbox ++ compilerRequest settings sandbox

/-- A project analysis changes the remembered trees as its scan does. -/
theorem trees_project (files : List MemoryFile) (sandbox : String) (s : Session τ) :
    ((project ⟨some client, settings⟩ files sandbox).runIn s).2.trees =
      treesAfter sandbox s.now
        (seenByScan client settings.scanner sandbox
          (requestsBeforeScan settings.compiler sandbox ++ s.journal)) s.trees := by
  obtain ⟨entries, hbefore⟩ := exists_beforeScan_eq ⟨some client, settings⟩ client sandbox s
  obtain ⟨others, hproject⟩ := runIn_project ⟨some client, settings⟩ sandbox s files
  rw [hproject]
  simp only [Option.map_some, Option.getD_some, Session.trees_since]
  rw [afterScan, trees_runProjectScan, hbefore]
  rfl

/-- A project analysis takes no time. -/
lemma now_project (files : List MemoryFile) (sandbox : String) (s : Session τ) :
    ((project ⟨some client, settings⟩ files sandbox).runIn s).2.now = s.now := by
  refine keeps_project (I := fun t => t.now = s.now) (fun _ _ _ ht => ht) (fun t ht => ?_)
    (fun _ _ ht => ht) files rfl
  exact (Manifest.trees_load client _ sandbox t).2.trans ht

/-- A project analysis whose scan was completed is hybrid, unless another detector was broken off. -/
theorem hybrid_of_seen (files : List MemoryFile) {sandbox : String} {s : Session τ}
    {seen : Option FileTree × Stream} {compiler lint : Option DetectorRun}
    (hseen : seenByScan client settings.scanner sandbox
      (requestsBeforeScan settings.compiler sandbox ++ s.journal) = .ok seen)
    (hcompiler : compilerOutcome client settings.compiler sandbox s.journal = .ok compiler)
    (hlint : lintOutcome client settings.compiler sandbox
      (compilerRequest settings.compiler sandbox ++ s.journal) = .ok lint) :
    ∃ report, ((project ⟨some client, settings⟩ files sandbox).runIn s).1 = .ok report ∧
      report.mode = .hybrid := by
  obtain ⟨entries, hbefore⟩ := exists_beforeScan_eq ⟨some client, settings⟩ client sandbox s
  obtain ⟨findings, hscan⟩ := runProjectScan_of_seen
    (s := beforeScan ⟨some client, settings⟩ client sandbox s) (by rw [hbefore]; exact hseen)
  rw [← outcomesIn_compiler ⟨some client, settings⟩ client sandbox s] at hcompiler
  rw [← outcomesIn_lint ⟨some client, settings⟩ client sandbox s] at hlint
  let runs : List DetectorRun :=
    [compiler, lint, some { detector := .projectScan, findings }].filterMap id
  have hreport : (outcomesIn ⟨some client, settings⟩ client sandbox s).report? =
      some (.ofFindings .hybrid (runs.flatMap (·.findings))) := by
    have hdata : runs.any (·.hasData) = true :=
      List.any_eq_true.2 ⟨{ detector := .projectScan, findings }, by simp [runs], rfl⟩
    rw [Outcomes.report?, hcompiler, hlint, outcomesIn, hscan]
    exact if_pos hdata
  obtain ⟨others, hproject⟩ := runIn_project ⟨some client, settings⟩ sandbox s files
  rw [hproject]
  simp only [Option.bind_some, hreport]
  exact ⟨_, rfl, rfl⟩

end Analysis

end ProjectCheck
