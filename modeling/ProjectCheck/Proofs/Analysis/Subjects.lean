import ProjectCheck.Proofs.Analysis.Detectors
import ProjectCheck.Proofs.Diagnostic.Repeated

/-!
# Which detector finds what

The compiler and the linter find things about the build and nothing else
(`isBuild_of_mem_compilerOutcome`, `isBuild_of_mem_lintOutcome`).  The project scan finds things about
imports and links and nothing about the build, and it always ends with a run if it is not broken off
(`gives_runProjectScan`).  So the groups of a report can be told apart by the detectors that fill
them.
-/

namespace ProjectCheck

/-! ## The compiler and the linter -/

namespace CompilerOutput

lemma isBuild_of_mem_ofLines {lines : List (List Char)} {ds : List Diagnostic}
    (h : ofLines lines = .ok ds) : ∀ d ∈ ds, d.subject.isBuild = true := by
  intro d hd
  obtain ⟨line, head, more, hread⟩ := exists_isReadFrom h d hd
  rw [hread.subject]
  rfl

end CompilerOutput

namespace LintOutput

lemma exists_of_mem_mapM {α β : Type} {f : α → Except Fault β} {items : List α} {found : List β}
    (h : items.mapM f = .ok found) : ∀ b ∈ found, ∃ a ∈ items, f a = .ok b := by
  induction items generalizing found with
  | nil =>
    obtain rfl : [] = found := Except.ok.inj h
    simp
  | cons item rest ih =>
    rw [List.mapM_cons] at h
    cases hfirst : f item with
    | error why => simp [hfirst, bind, Except.bind] at h
    | ok first =>
      cases hothers : rest.mapM f with
      | error why => simp [hfirst, hothers, bind, Except.bind] at h
      | ok others =>
        simp only [hfirst, hothers, bind, Except.bind, pure, Except.pure, Except.ok.injEq] at h
        rw [← h]
        refine List.forall_mem_cons.2 ⟨⟨item, List.mem_cons_self, hfirst⟩, fun b hb => ?_⟩
        obtain ⟨a, ha, hfa⟩ := ih hothers b hb
        exact ⟨a, List.mem_cons_of_mem item ha, hfa⟩

lemma isBuild_of_ofMessage? {result : List (String × Value)} {message : Value} {d : Diagnostic}
    (h : ofMessage? result message = .ok (some d)) : d.subject.isBuild = true := by
  cases message with
  | record members =>
    simp only [ofMessage?] at h
    split at h
    · simp [pure, Except.pure] at h
    · cases hseverity : severityOfRule (field members "ruleId") with
      | error why => simp [hseverity, bind, Except.bind] at h
      | ok severity =>
        simp only [hseverity, bind, Except.bind, pure, Except.pure, Except.ok.injEq,
          Option.some.injEq] at h
        rw [← h]
        rfl
  | _ => simp [ofMessage?] at h

lemma isBuild_of_mem_ofResult {result : Value} {ds : List Diagnostic}
    (h : ofResult result = .ok ds) : ∀ d ∈ ds, d.subject.isBuild = true := by
  cases result with
  | record members =>
    simp only [ofResult] at h
    cases hmessages : messagesOf members with
    | error why => simp [hmessages, bind, Except.bind] at h
    | ok messages =>
      cases hfound : messages.mapM (ofMessage? members) with
      | error why => simp [hmessages, hfound, bind, Except.bind] at h
      | ok found =>
        simp only [hmessages, hfound, bind, Except.bind, pure, Except.pure, Except.ok.injEq] at h
        rw [← h]
        intro d hd
        obtain ⟨found?, hmem, hsome⟩ := List.mem_filterMap.1 hd
        obtain ⟨message, -, hmessage⟩ := exists_of_mem_mapM hfound found? hmem
        rw [show found? = some d from hsome] at hmessage
        exact isBuild_of_ofMessage? hmessage
  | _ =>
    obtain rfl : [] = ds := Except.ok.inj h
    simp

lemma isBuild_of_mem_findings {reading : Reading} {ds : List Diagnostic}
    (h : reading.findings = .ok ds) : ∀ d ∈ ds, d.subject.isBuild = true := by
  cases reading with
  | results items =>
    simp only [Reading.findings] at h
    cases hfound : items.mapM ofResult with
    | error why => simp [hfound, bind, Except.bind] at h
    | ok found =>
      simp only [hfound, bind, Except.bind, pure, Except.pure, Except.ok.injEq] at h
      rw [← h]
      intro d hd
      obtain ⟨group, hgroup, hmem⟩ := List.mem_flatten.1 hd
      obtain ⟨result, -, hresult⟩ := exists_of_mem_mapM hfound group hgroup
      exact isBuild_of_mem_ofResult hresult d hmem
  | tooDeep => simp [Reading.findings] at h
  | unparseable | unexpected =>
    obtain rfl : [] = ds := Except.ok.inj h
    simp

end LintOutput

/-! ## Imports and links -/

namespace MissingExport

section

variable {P : Diagnostic → Prop} {path content : String}
  (hexport : ∀ name number line, P (missingExport path name number line))

include hexport

lemma forall_mem_findingsFrom {settled : List String} {number : Nat} {lines : List (List Char)} :
    ∀ d ∈ findingsFrom path settled number lines, P d := by
  induction lines generalizing settled number with
  | nil => simp [findingsFrom]
  | cons line rest ih =>
    rw [findingsFrom]
    cases unexported? settled line with
    | none => exact ih
    | some name => exact List.forall_mem_cons.2 ⟨hexport name number line, ih⟩

/-- What holds of the two forms of a finding about exports holds of all of them. -/
lemma forall_mem_find (hroot : P (missingRootExport path)) : ∀ d ∈ find path content, P d := by
  intro d hd
  simp only [find] at hd
  split at hd
  · simp at hd
  · rcases List.mem_append.1 hd with hd | hd
    · exact forall_mem_findingsFrom hexport d hd
    · split at hd
      · rw [List.mem_singleton.1 hd]
        exact hroot
      · simp at hd

end

lemma isBuild_of_mem_find {path content : String} :
    ∀ d ∈ find path content, d.subject.isBuild = false :=
  forall_mem_find (fun _ _ _ => rfl) rfl

end MissingExport

namespace Navigation

lemma isBuild_of_mem_find {path content : String} :
    ∀ d ∈ find path content, d.subject.isBuild = false := by
  intro d hd
  obtain ⟨link, -, rfl⟩ := List.mem_map.1 hd
  rfl

end Navigation

namespace MissingImport

variable {τ : Type} [Sub τ] [LE τ] [DecidableLE τ]

/-- What a search finds about a declaration is nothing about the build. -/
lemma gives_check (resolver : Resolver) (path sandbox : String) (tree : Option FileTree)
    (found : Text.Find Import.Declaration) :
    (check resolver path sandbox tree found : Work τ _).Gives
      fun finding => ∀ d ∈ finding.toList, d.subject.isBuild = false := by
  rw [check]
  split
  · exact .pure (by simp)
  · refine .bind_last fun resolution => ?_
    split
    · exact .pure (by simp)
    · refine .bind_last fun _ => .pure fun d hd => ?_
      rw [List.mem_singleton.1 hd]
      rfl

lemma gives_checkAll (resolver : Resolver) (path sandbox : String) (tree : Option FileTree)
    (declarations : List (Text.Find Import.Declaration)) :
    (checkAll resolver path sandbox tree declarations : Work τ _).Gives
      fun findings => ∀ d ∈ findings, d.subject.isBuild = false := by
  induction declarations with
  | nil => exact .pure (by simp)
  | cons found rest ih =>
    rw [checkAll]
    refine (gives_check resolver path sandbox tree found).bind fun finding hfinding => ?_
    exact ih.bind fun others hothers => .pure (List.forall_mem_append.2 ⟨hfinding, hothers⟩)

/-- What a search in a sandbox finds is nothing about the build. -/
lemma gives_findInSandbox (resolver : Resolver) (path content sandbox : String)
    (tree : Option FileTree) :
    (findInSandbox resolver path content sandbox tree : Work τ _).Gives
      fun findings => ∀ d ∈ findings, d.subject.isBuild = false :=
  (gives_checkAll resolver path sandbox tree _).bind fun _ hfindings =>
    .pure (List.forall_mem_append.2 ⟨hfindings, MissingExport.isBuild_of_mem_find⟩)

end MissingImport

/-! ## The detectors -/

namespace Analysis

open ProjectCheck.Sandbox

lemma runOf_eq_ok_some {detector : SandboxDetector}
    {verdict : CommandResult → Except Interruption DetectorRun}
    {outcome : Except Interruption CommandResult} {run : DetectorRun}
    (h : runOf detector verdict outcome = .ok (some run)) :
    (∃ result, outcome = .ok result ∧ verdict result = .ok run) ∨
      run = { detector, hasData := false } := by
  cases outcome with
  | ok result =>
    refine Or.inl ⟨result, rfl, ?_⟩
    rw [runOf] at h
    cases hverdict : verdict result with
    | error why => simp [hverdict, Except.map] at h
    | ok found =>
      rw [hverdict] at h
      exact congrArg Except.ok (Option.some.inj (Except.ok.inj h))
  | error why =>
    simp only [runOf] at h
    split at h
    · exact Or.inr (Option.some.inj (Except.ok.inj h)).symm
    · simp at h

lemma isBuild_of_compilerVerdict {result : CommandResult} {run : DetectorRun}
    (h : compilerVerdict result = .ok run) : ∀ d ∈ run.findings, d.subject.isBuild = true := by
  rw [compilerVerdict] at h
  cases hparse : CompilerOutput.parse result.combinedOutput with
  | error why => simp [hparse] at h
  | ok found =>
    simp only [hparse, Except.ok.injEq] at h
    rw [← h]
    exact fun d hd => CompilerOutput.isBuild_of_mem_ofLines hparse d
      ((Diagnostic.deduplicate_sublist found).subset hd)

lemma isBuild_of_lintVerdict {result : CommandResult} {run : DetectorRun}
    (h : lintVerdict result = .ok run) : ∀ d ∈ run.findings, d.subject.isBuild = true := by
  rw [lintVerdict] at h
  split at h
  · rw [← Except.ok.inj h]
    simp
  · cases hfindings : (LintOutput.read result.stdout).findings with
    | error why => simp [hfindings] at h
    | ok findings =>
      simp only [hfindings, Except.ok.injEq] at h
      rw [← h]
      exact LintOutput.isBuild_of_mem_findings hfindings

/-- The compiler finds things about the build and nothing else. -/
theorem isBuild_of_mem_compilerOutcome {client : Client} {settings : CompilerSettings}
    {sandbox : String} {earlier : List Call} {run : DetectorRun}
    (h : compilerOutcome client settings sandbox earlier = .ok (some run)) :
    ∀ d ∈ run.findings, d.subject.isBuild = true := by
  rw [compilerOutcome] at h
  split at h
  · rcases runOf_eq_ok_some h with ⟨result, -, hverdict⟩ | rfl
    · exact isBuild_of_compilerVerdict hverdict
    · simp
  · simp at h

/-- The linter finds things about the build and nothing else. -/
theorem isBuild_of_mem_lintOutcome {client : Client} {settings : CompilerSettings}
    {sandbox : String} {earlier : List Call} {run : DetectorRun}
    (h : lintOutcome client settings sandbox earlier = .ok (some run)) :
    ∀ d ∈ run.findings, d.subject.isBuild = true := by
  rw [lintOutcome] at h
  split at h
  · simp at h
  · rcases runOf_eq_ok_some h with ⟨result, -, hverdict⟩ | rfl
    · exact isBuild_of_lintVerdict hverdict
    · simp

lemma isBuild_of_mem_linkFindings {settings : DetectorSettings} {files : List Scan.ScannedFile} :
    ∀ d ∈ linkFindings settings files, d.subject.isBuild = false := by
  intro d hd
  rw [linkFindings] at hd
  split at hd
  · obtain ⟨file, -, hfound⟩ := List.mem_flatMap.1 hd
    exact Navigation.isBuild_of_mem_find d hfound
  · simp at hd

variable {τ : Type} [Sub τ] [LE τ] [DecidableLE τ]

lemma gives_checkScannedFile (resolver : Resolver) (sandbox : String) (tree : Option FileTree)
    (file : Scan.ScannedFile) :
    (checkScannedFile resolver sandbox tree file : Work τ _).Gives
      fun findings => ∀ d ∈ findings, d.subject.isBuild = false := by
  rw [checkScannedFile]
  refine (MissingImport.gives_findInSandbox resolver file.path file.content sandbox
    tree).settle.bind fun outcome houtcome => ?_
  cases outcome with
  | ok findings => exact .pure (houtcome findings rfl)
  | error why => exact .bind_last fun _ => .pure (by simp)

lemma gives_checkScannedFiles (resolver : Resolver) (sandbox : String) (tree : Option FileTree)
    (files : List Scan.ScannedFile) :
    (checkScannedFiles resolver sandbox tree files : Work τ _).Gives
      fun findings => ∀ d ∈ findings, d.subject.isBuild = false := by
  induction files with
  | nil => exact .pure (by simp)
  | cons file rest ih =>
    rw [checkScannedFiles]
    refine (gives_checkScannedFile resolver sandbox tree file).bind fun findings hfindings => ?_
    exact ih.bind fun others hothers => .pure (List.forall_mem_append.2 ⟨hfindings, hothers⟩)

/-- A project scan that is not broken off ends with a run, and finds nothing about the build. -/
theorem gives_runProjectScan (a : Analyser) (client : Client) (sandbox : String) :
    (runProjectScan a client sandbox : Work τ _).Gives
      fun run? => ∃ run, run? = some run ∧ ∀ d ∈ run.findings, d.subject.isBuild = false := by
  rw [runProjectScan]
  refine .bind_last fun tree => .bind_last fun stream => .bind_last fun _ => ?_
  cases both tree stream with
  | ok results =>
    refine .bind_last fun _ => ?_
    refine (gives_checkScannedFiles a.resolver sandbox results.1 results.2.files).bind
      fun imports himports => ?_
    exact .bind_last fun _ => .pure
      ⟨_, rfl, List.forall_mem_append.2 ⟨himports, isBuild_of_mem_linkFindings⟩⟩
  | error why =>
    dsimp only
    split
    · exact .bind_last fun _ => .pure ⟨_, rfl, by simp⟩
    · exact .throw why

end Analysis

end ProjectCheck
