import ProjectCheck.Proofs.Analysis.Outcomes
import ProjectCheck.Proofs.Analysis.Scanning
import ProjectCheck.Proofs.Analysis.Subjects
import ProjectCheck.Proofs.Manifest.Loading

/-!
# Detectors do not interfere

The detectors of a project analysis share a session, a list of findings and the test for having any
data.  Still each group of the report belongs to its detectors alone: the build group is what the
compiler and the linter have found, whatever the project scan met, and the other groups are what the
scan has found, whatever became of the compiler and the linter (`detectors_do_not_interfere`).

The first holds since the findings of the detectors differ in kind.  The second needs two runs: the
compiler and the linter leave nothing in the session but their requests and log entries, and the scan
cannot tell apart two sessions that differ only in the log (`SameButLog`).
-/

namespace ProjectCheck

variable {τ : Type}

/-! ## Sessions that differ only in the log -/

/-- Two sessions differ only in the log. -/
structure Session.SameButLog (s t : Session τ) : Prop where
  now : s.now = t.now
  manifests : s.manifests = t.manifests
  trees : s.trees = t.trees
  journal : s.journal = t.journal

namespace Session.SameButLog

variable {s t : Session τ}

lemma since (h : s.SameButLog t) (calls : List Call) (entries others : List LogEntry) :
    (s.since calls entries).SameButLog (t.since calls others) :=
  ⟨h.now, h.manifests, h.trees, congrArg (calls ++ ·) h.journal⟩

lemma refl_since (s : Session τ) (calls : List Call) (entries others : List LogEntry) :
    (s.since calls entries).SameButLog (s.since calls others) :=
  since ⟨rfl, rfl, rfl, rfl⟩ calls entries others

end Session.SameButLog

variable [Sub τ] [LE τ] [DecidableLE τ]

lemma Manifest.agree_load_sameButLog (client : Client) (path sandbox : String) :
    Work.Agree Session.SameButLog (load client path sandbox : Work τ _)
      (load client path sandbox) := by
  intro s t h
  have hknown : (s.manifests.get sandbox s.now) = (t.manifests.get sandbox t.now) := by
    rw [h.manifests, h.now]
  cases hremembered : (t.manifests.get sandbox t.now).1 with
  | some m =>
    rw [runIn_load_of_remembered client path (hknown ▸ hremembered),
      runIn_load_of_remembered client path hremembered]
    exact ⟨rfl, h.now, congrArg Prod.snd hknown, h.trees, h.journal⟩
  | none =>
    rw [runIn_load_of_forgotten client path (hknown ▸ hremembered),
      runIn_load_of_forgotten client path hremembered, h.journal]
    cases hcontent : ofContent sandbox path
        (Sandbox.contentOf (client.read t.journal sandbox path)) with
    | error why =>
      rw [runIn_store_of_error hcontent, runIn_store_of_error hcontent]
      exact ⟨rfl, h.now, congrArg Prod.snd hknown, h.trees, rfl⟩
    | ok said =>
      rw [runIn_store_of_ok hcontent, runIn_store_of_ok hcontent, hknown, h.now]
      exact ⟨rfl, rfl, rfl, h.trees, rfl⟩

/-- A client shows the same to sessions that differ only in the log. -/
lemma showAlike_sameButLog {c₁ c₂ : Client} (hread : c₁.read = c₂.read)
    (manifestPath sandbox : String) (tree : Option FileTree) :
    ShowAlike (Session.SameButLog : Session τ → Session τ → Prop) c₁ c₂ manifestPath sandbox
      tree where
  log _ _ entries h := h.since [] entries entries
  load := by
    have hload : (Manifest.load c₁ manifestPath sandbox : Work τ _) =
        Manifest.load c₂ manifestPath sandbox := by
      simp only [Manifest.load, Sandbox.readContent, hread]
    rw [hload]
    exact Manifest.agree_load_sameButLog c₂ manifestPath sandbox
  read _ path := by
    intro s t h
    rw [Sandbox.runIn_readContent, Sandbox.runIn_readContent, hread, h.journal]
    exact ⟨rfl, h.now, h.manifests, h.trees, rfl⟩

namespace Analysis

open ProjectCheck.Sandbox ProjectCheck.Scan ProjectCheck.Text

lemma agree_rememberTree_sameButLog (sandbox : String) (tree : Option FileTree) :
    Work.Agree Session.SameButLog (rememberTree sandbox tree : Work τ _)
      (rememberTree sandbox tree) := by
  intro s t h
  refine ⟨rfl, h.now, h.manifests, ?_, h.journal⟩
  cases tree with
  | some tree =>
    change s.trees.put sandbox (some tree) s.now = t.trees.put sandbox (some tree) t.now
    rw [h.trees, h.now]
  | none =>
    change s.trees.invalidate (some sandbox) = t.trees.invalidate (some sandbox)
    rw [h.trees]

/-! ## The scan and the other detectors -/

/-- The commands that are run to find something about the build. -/
def buildCommands (settings : CompilerSettings) : List String :=
  settings.command :: (lintCommandOf settings).toList

/-- Two clients answer all requests alike but some commands. -/
structure AnswerAlikeBut (commands : List String) (c₁ c₂ : Client) : Prop where
  read : c₁.read = c₂.read
  execute : ∀ earlier sandbox command timeoutMs, command ∉ commands →
    c₁.execute earlier sandbox command timeoutMs = c₂.execute earlier sandbox command timeoutMs

/-- Two clients answer some commands alike. -/
def AnswerAlikeOn (commands : List String) (c₁ c₂ : Client) : Prop :=
  ∀ earlier sandbox, ∀ command ∈ commands, ∀ timeoutMs,
    c₁.execute earlier sandbox command timeoutMs = c₂.execute earlier sandbox command timeoutMs

/-- Clients that differ only in the answers to the compiler and the linter give the same scan. -/
theorem scan_eq_of_answerAlikeBut {settings : Settings} {c₁ c₂ : Client}
    (hlisting : listingCommand settings.scanner ∉ buildCommands settings.compiler)
    (hreading : readingCommand settings.scanner ∉ buildCommands settings.compiler)
    (h : AnswerAlikeBut (buildCommands settings.compiler) c₁ c₂) (sandbox : String)
    (s : Session τ) :
    (outcomesIn ⟨some c₁, settings⟩ c₁ sandbox s).scan =
      (outcomesIn ⟨some c₂, settings⟩ c₂ sandbox s).scan := by
  have hlist : Work.Agree Session.SameButLog (listFiles c₁ settings.scanner sandbox : Work τ _)
      (listFiles c₂ settings.scanner sandbox) :=
    agree_listFiles (fun _ _ calls entries others hst => hst.since calls entries others)
      fun s t hst => by rw [hst.journal, h.execute t.journal sandbox _ _ hlisting]
  have hread : Work.Agree Session.SameButLog (readFiles c₁ settings.scanner sandbox : Work τ _)
      (readFiles c₂ settings.scanner sandbox) :=
    agree_readFiles (fun _ _ calls entries others hst => hst.since calls entries others)
      fun s t hst => by rw [hst.journal, h.execute t.journal sandbox _ _ hreading]
  have hbefore : (beforeScan ⟨some c₁, settings⟩ c₁ sandbox s).SameButLog
      (beforeScan ⟨some c₂, settings⟩ c₂ sandbox s) := by
    obtain ⟨entries, h₁⟩ := exists_beforeScan_eq ⟨some c₁, settings⟩ c₁ sandbox s
    obtain ⟨others, h₂⟩ := exists_beforeScan_eq ⟨some c₂, settings⟩ c₂ sandbox s
    rw [h₁, h₂]
    exact .refl_since s _ entries others
  exact (agree_runProjectScan (showAlike_sameButLog h.read _ sandbox)
    (agree_rememberTree_sameButLog sandbox) hlist hread hbefore).1

/-! ## The groups of a report -/

/-- What the compiler contributes: the diagnostics in its output, each once; none if it is switched
off or its command has no result. -/
def compilerShare (client : Client) (settings : CompilerSettings) (sandbox : String)
    (earlier : List Call) : List Diagnostic :=
  if settings.enabled then
    match commandOutcome client earlier sandbox settings.command settings.timeoutMs with
    | .error _ => []
    | .ok result =>
      match CompilerOutput.parse result.combinedOutput with
      | .error _ => []
      | .ok found => Diagnostic.deduplicate found
  else []

/-- What the linter contributes: the findings in its output; none if no command is set, or the
command has no result, or its output is blank. -/
def lintShare (client : Client) (settings : CompilerSettings) (sandbox : String)
    (earlier : List Call) : List Diagnostic :=
  match lintCommandOf settings with
  | none => []
  | some command =>
    match commandOutcome client earlier sandbox command settings.lintTimeoutMs with
    | .error _ => []
    | .ok result =>
      if isBlankText result.stdout.toList then []
      else
        match (LintOutput.read result.stdout).findings with
        | .error _ => []
        | .ok findings => findings

lemma findingsOf_compilerOutcome (client : Client) (settings : CompilerSettings)
    (sandbox : String) (earlier : List Call) :
    findingsOf (compilerOutcome client settings sandbox earlier) =
      compilerShare client settings sandbox earlier := by
  rw [compilerOutcome, compilerShare]
  cases settings.enabled with
  | false => rfl
  | true =>
    simp only [if_true]
    cases commandOutcome client earlier sandbox settings.command settings.timeoutMs with
    | error why => simp only [runOf]; split <;> rfl
    | ok result =>
      simp only [runOf, compilerVerdict]
      cases CompilerOutput.parse result.combinedOutput <;> rfl

lemma findingsOf_lintOutcome (client : Client) (settings : CompilerSettings)
    (sandbox : String) (earlier : List Call) :
    findingsOf (lintOutcome client settings sandbox earlier) =
      lintShare client settings sandbox earlier := by
  rw [lintOutcome, lintShare]
  cases lintCommandOf settings with
  | none => rfl
  | some command =>
    dsimp only
    cases commandOutcome client earlier sandbox command settings.lintTimeoutMs with
    | error why => simp only [runOf]; split <;> rfl
    | ok result =>
      simp only [runOf, lintVerdict]
      cases isBlankText result.stdout.toList with
      | true => rfl
      | false => cases (LintOutput.read result.stdout).findings <;> rfl

lemma compilerShare_congr {settings : CompilerSettings} {c₁ c₂ : Client}
    (h : AnswerAlikeOn (buildCommands settings) c₁ c₂) (sandbox : String) (earlier : List Call) :
    compilerShare c₁ settings sandbox earlier = compilerShare c₂ settings sandbox earlier := by
  rw [compilerShare, compilerShare,
    commandOutcome_congr (h earlier sandbox settings.command List.mem_cons_self _)]

lemma lintShare_congr {settings : CompilerSettings} {c₁ c₂ : Client}
    (h : AnswerAlikeOn (buildCommands settings) c₁ c₂) (sandbox : String) (earlier : List Call) :
    lintShare c₁ settings sandbox earlier = lintShare c₂ settings sandbox earlier := by
  rw [lintShare, lintShare]
  cases hcommand : lintCommandOf settings with
  | none => rfl
  | some command =>
    have hmem : command ∈ buildCommands settings := by simp [buildCommands, hcommand]
    dsimp only
    rw [commandOutcome_congr (h earlier sandbox command hmem _)]

lemma filter_eq_nil_of_forall {p : Diagnostic → Bool} {ds : List Diagnostic}
    (h : ∀ d ∈ ds, p d = false) : ds.filter p = [] :=
  List.filter_eq_nil_iff.2 fun d hd => by simp [h d hd]

lemma isImport_of_isBuild {d : Diagnostic} (h : d.subject.isBuild = true) :
    d.subject.isImport = false := by
  cases hd : d.subject <;> simp_all [Subject.isBuild, Subject.isImport]

lemma isNavigation_of_isBuild {d : Diagnostic} (h : d.subject.isBuild = true) :
    d.subject.isNavigation = false := by
  cases hd : d.subject <;> simp_all [Subject.isBuild, Subject.isNavigation]

/-- The groups of a report whose build findings and other findings come one after the other. -/
lemma ofFindings_append (mode : Mode) {build others : List Diagnostic}
    (hbuild : ∀ d ∈ build, d.subject.isBuild = true)
    (hothers : ∀ d ∈ others, d.subject.isBuild = false) :
    (Report.ofFindings mode (build ++ others)).build = build ∧
      (Report.ofFindings mode (build ++ others)).imports =
        others.filter (fun d => d.subject.isImport) ∧
      (Report.ofFindings mode (build ++ others)).navigation =
        others.filter (fun d => d.subject.isNavigation) := by
  refine ⟨?_, ?_, ?_⟩ <;> simp only [Report.ofFindings, List.filter_append]
  · rw [List.filter_eq_self.2 hbuild, filter_eq_nil_of_forall hothers, List.append_nil]
  · rw [filter_eq_nil_of_forall fun d hd => isImport_of_isBuild (hbuild d hd), List.nil_append]
  · rw [filter_eq_nil_of_forall fun d hd => isNavigation_of_isBuild (hbuild d hd), List.nil_append]

lemma forall_mem_findingsOf {P : Diagnostic → Prop}
    {outcome : Except Interruption (Option DetectorRun)}
    (h : ∀ run, outcome = .ok (some run) → ∀ d ∈ run.findings, P d) :
    ∀ d ∈ findingsOf outcome, P d := by
  rcases outcome with why | (_ | run)
  · simp [findingsOf]
  · simp [findingsOf]
  · exact h run rfl

/-- A hybrid report is that of the detectors. -/
lemma report?_of_mode_hybrid {settings : Settings} {client : Client} {files : List MemoryFile}
    {sandbox : String} {s : Session τ} {report : Report}
    (h : ((project ⟨some client, settings⟩ files sandbox).runIn s).1 = .ok report)
    (hmode : report.mode = .hybrid) :
    (outcomesIn ⟨some client, settings⟩ client sandbox s).report? = some report := by
  obtain ⟨entries, hproject⟩ := runIn_project ⟨some client, settings⟩ sandbox s files
  rw [hproject] at h
  replace h := Except.ok.inj h
  simp only [Option.bind_some] at h
  cases hreport : (outcomesIn ⟨some client, settings⟩ client sandbox s).report? with
  | some found =>
    rw [hreport] at h
    exact congrArg some h
  | none =>
    rw [hreport] at h
    rw [← h] at hmode
    simp [fragmentReport] at hmode

/-- The groups of a hybrid report, by the detectors that fill them. -/
theorem groups_of_hybrid {settings : Settings} {client : Client} {files : List MemoryFile}
    {sandbox : String} {s : Session τ} {report : Report}
    (h : ((project ⟨some client, settings⟩ files sandbox).runIn s).1 = .ok report)
    (hmode : report.mode = .hybrid) :
    let scanned := findingsOf (outcomesIn ⟨some client, settings⟩ client sandbox s).scan
    report.build =
        compilerShare client settings.compiler sandbox s.journal ++
          lintShare client settings.compiler sandbox
            (compilerRequest settings.compiler sandbox ++ s.journal) ∧
      report.imports = scanned.filter (fun d => d.subject.isImport) ∧
      report.navigation = scanned.filter (fun d => d.subject.isNavigation) := by
  have hreport := Outcomes.eq_of_report? (report?_of_mode_hybrid h hmode)
  rw [outcomesIn_compiler, outcomesIn_lint] at hreport
  -- the findings of the detectors come in a row, and those of the scan differ from the others in kind
  have hbuild : ∀ d ∈
      findingsOf (compilerOutcome client settings.compiler sandbox s.journal) ++
        findingsOf (lintOutcome client settings.compiler sandbox
          (compilerRequest settings.compiler sandbox ++ s.journal)),
      d.subject.isBuild = true :=
    List.forall_mem_append.2
      ⟨forall_mem_findingsOf fun run => isBuild_of_mem_compilerOutcome,
        forall_mem_findingsOf fun run => isBuild_of_mem_lintOutcome⟩
  have hscan : ∀ d ∈ findingsOf (outcomesIn ⟨some client, settings⟩ client sandbox s).scan,
      d.subject.isBuild = false := by
    refine forall_mem_findingsOf fun run hrun => ?_
    obtain ⟨other, hother, hfindings⟩ := gives_runProjectScan _ client sandbox hrun
    rwa [Option.some.inj hother]
  have hgroups := ofFindings_append .hybrid hbuild hscan
  rw [findingsOf_compilerOutcome, findingsOf_lintOutcome] at hgroups hreport
  rw [hreport]
  exact hgroups

/-- **Detectors do not interfere.**  Take two clients with hybrid reports of the same sandbox, from
the same session and under the same settings.  If the clients differ only in what they answer to the
compiler and the linter, which are other commands than those of the scan, the reports hold the same
findings about imports and links.  If they answer the compiler and the linter alike, and all else in
any way, the reports hold the same findings about the build.  These are always what the compiler
contributes and then what the linter contributes. -/
theorem detectors_do_not_interfere (settings : Settings) (c₁ c₂ : Client)
    (files : List MemoryFile) (sandbox : String) (s : Session τ) (r₁ r₂ : Report)
    (h₁ : ((project ⟨some c₁, settings⟩ files sandbox).runIn s).1 = .ok r₁)
    (h₂ : ((project ⟨some c₂, settings⟩ files sandbox).runIn s).1 = .ok r₂)
    (hmode₁ : r₁.mode = .hybrid) (hmode₂ : r₂.mode = .hybrid) :
    (listingCommand settings.scanner ∉ buildCommands settings.compiler →
      readingCommand settings.scanner ∉ buildCommands settings.compiler →
      AnswerAlikeBut (buildCommands settings.compiler) c₁ c₂ →
      r₁.imports = r₂.imports ∧ r₁.navigation = r₂.navigation) ∧
    (AnswerAlikeOn (buildCommands settings.compiler) c₁ c₂ → r₁.build = r₂.build) ∧
    r₁.build =
      compilerShare c₁ settings.compiler sandbox s.journal ++
        lintShare c₁ settings.compiler sandbox
          (compilerRequest settings.compiler sandbox ++ s.journal) := by
  obtain ⟨hbuild₁, himports₁, hnavigation₁⟩ := groups_of_hybrid h₁ hmode₁
  obtain ⟨hbuild₂, himports₂, hnavigation₂⟩ := groups_of_hybrid h₂ hmode₂
  refine ⟨fun hlisting hreading halike => ?_, fun halike => ?_, hbuild₁⟩
  · have hscan := scan_eq_of_answerAlikeBut hlisting hreading halike sandbox s
    rw [himports₁, himports₂, hnavigation₁, hnavigation₂, hscan]
    exact ⟨rfl, rfl⟩
  · rw [hbuild₁, hbuild₂, compilerShare_congr halike, lintShare_congr halike]

/-! ## Three clients -/

/-- A client that gives one answer to a compiler, one to a linter, and one to all else. -/
def scriptedClient (compiler lint others : CommandAnswer) : Client where
  execute _ _ command _ :=
    if command = "tsc" then compiler else if command = "lint" then lint else others
  read _ _ _ := none

/-- The answer of a command that printed a text. -/
def printed (text : String) : CommandAnswer :=
  .response (.result (.printing text))

/-- Settings with the compiler and the linter that a scripted client knows. -/
def scriptedSettings : Settings :=
  { compiler := { command := "tsc", lintCommand := some "lint" } }

lemma buildCommands_scriptedSettings :
    buildCommands scriptedSettings.compiler = ["tsc", "lint"] := by
  simp [buildCommands, lintCommandOf, scriptedSettings]

/-- The commands of a scan are handed to a shell, so they are neither the compiler nor the linter. -/
lemma notMem_buildCommands_scriptedSettings :
    listingCommand scriptedSettings.scanner ∉ buildCommands scriptedSettings.compiler ∧
      readingCommand scriptedSettings.scanner ∉ buildCommands scriptedSettings.compiler := by
  rw [buildCommands_scriptedSettings]
  constructor
  · simp [listingCommand, treeCommand, inShell, String.ext_iff]
  · simp [readingCommand, batchCommand, inShell, String.ext_iff]

variable {compiler lint others : CommandAnswer}

lemma execute_scriptedClient {command : String}
    (h : command ∉ buildCommands scriptedSettings.compiler) (earlier : List Call)
    (sandbox : String) (timeoutMs : Int) :
    (scriptedClient compiler lint others).execute earlier sandbox command timeoutMs = others := by
  rw [buildCommands_scriptedSettings] at h
  simp only [List.mem_cons, List.not_mem_nil, or_false, not_or] at h
  simp only [scriptedClient, h.1, h.2, if_false]

/-- Where all other commands print a text, a scan is completed. -/
lemma exists_seen_scriptedClient (compiler lint : CommandAnswer) (text sandbox : String)
    (earlier : List Call) :
    ∃ seen, seenByScan (scriptedClient compiler lint (printed text)) scriptedSettings.scanner
      sandbox earlier = .ok seen := by
  obtain ⟨hlisting, hreading⟩ := notMem_buildCommands_scriptedSettings
  have hprints {command : String} (h : command ∉ buildCommands scriptedSettings.compiler)
      {timeoutMs : Int} (hsent : isSent timeoutMs = true) (past : List Call) :
      commandOutcome (scriptedClient compiler lint (printed text)) past sandbox command timeoutMs =
        .ok (.printing text) := by
    rw [commandOutcome_of_isSent hsent, execute_scriptedClient h]
    rfl
  rw [seenByScan, listingOutcome, readingOutcome, hprints hlisting (by decide),
    hprints hreading (by decide)]
  simp only [Except.bind, streamOf]
  split <;> exact ⟨_, rfl⟩

/-- Of three clients, the second differs from the first in what the compiler and the linter answer,
and the third in what is read of the project. -/
theorem detectors_of_three_clients :
    let diagnosed := printed "src/a.ts(1,2): error TS1: x"
    let scanned := printed "___FILE_SEPARATOR___\nsrc/a.ts\nimport b from './b'\n___END_FILE___\n"
    let report (client : Client) :=
      ((project ⟨some client, scriptedSettings⟩ [] "box").runIn (Session.start (0 : Int) 300 300)).1
    ∃ r₁ r₂ r₃,
      report (scriptedClient diagnosed (printed "") scanned) = .ok r₁ ∧
      report (scriptedClient .timeout .timeout scanned) = .ok r₂ ∧
      report (scriptedClient diagnosed (printed "") (printed "")) = .ok r₃ ∧
      r₁.imports = r₂.imports ∧ r₁.navigation = r₂.navigation ∧ r₁.build = r₃.build := by
  intro diagnosed scanned report
  obtain ⟨found, hfound⟩ :
      ∃ found, CompilerOutput.parse "src/a.ts(1,2): error TS1: x" = .ok found := by
    have hok : (CompilerOutput.parse "src/a.ts(1,2): error TS1: x").isOk = true := by
      decide +kernel
    rcases hparse : CompilerOutput.parse "src/a.ts(1,2): error TS1: x" with why | found
    · rw [hparse] at hok
      exact absurd hok (by simp [Except.isOk, Except.toBool])
    · exact ⟨found, rfl⟩
  have hcompiler (others : CommandAnswer) : ∃ run,
      compilerOutcome (scriptedClient diagnosed (printed "") others) scriptedSettings.compiler
        "box" [] = .ok run := by
    have hprinted : (CommandResult.printing "src/a.ts(1,2): error TS1: x").combinedOutput =
        "src/a.ts(1,2): error TS1: x" := by rfl
    change ∃ run, (compilerVerdict (.printing "src/a.ts(1,2): error TS1: x")).map some = .ok run
    rw [compilerVerdict, hprinted, hfound]
    exact ⟨_, rfl⟩
  obtain ⟨run₁, hrun₁⟩ := hcompiler scanned
  obtain ⟨run₃, hrun₃⟩ := hcompiler (printed "")
  obtain ⟨seen₁, hseen₁⟩ := exists_seen_scriptedClient diagnosed (printed "") _ "box" _
  obtain ⟨seen₂, hseen₂⟩ := exists_seen_scriptedClient .timeout .timeout _ "box" _
  obtain ⟨seen₃, hseen₃⟩ := exists_seen_scriptedClient diagnosed (printed "") _ "box" _
  obtain ⟨r₁, h₁, hmode₁⟩ := hybrid_of_seen [] (s := .start (0 : Int) 300 300) hseen₁ hrun₁ rfl
  obtain ⟨r₂, h₂, hmode₂⟩ := hybrid_of_seen [] (s := .start (0 : Int) 300 300) hseen₂ rfl rfl
  obtain ⟨r₃, h₃, hmode₃⟩ := hybrid_of_seen [] (s := .start (0 : Int) 300 300) hseen₃ hrun₃ rfl
  refine ⟨r₁, r₂, r₃, h₁, h₂, h₃, ?_⟩
  have hbut : AnswerAlikeBut (buildCommands scriptedSettings.compiler)
      (scriptedClient diagnosed (printed "") scanned) (scriptedClient .timeout .timeout scanned) :=
    ⟨rfl, fun earlier sandbox command timeoutMs h => by
      rw [execute_scriptedClient h, execute_scriptedClient h]⟩
  have hon : AnswerAlikeOn (buildCommands scriptedSettings.compiler)
      (scriptedClient diagnosed (printed "") scanned)
      (scriptedClient diagnosed (printed "") (printed "")) := by
    intro earlier sandbox command h timeoutMs
    rw [buildCommands_scriptedSettings] at h
    simp only [List.mem_cons, List.not_mem_nil, or_false] at h
    rcases h with rfl | rfl <;> rfl
  obtain ⟨hscan, -, -⟩ :=
    detectors_do_not_interfere scriptedSettings _ _ [] "box" _ r₁ r₂ h₁ h₂ hmode₁ hmode₂
  obtain ⟨-, hbuild, -⟩ :=
    detectors_do_not_interfere scriptedSettings _ _ [] "box" _ r₁ r₃ h₁ h₃ hmode₁ hmode₃
  obtain ⟨hlisting, hreading⟩ := notMem_buildCommands_scriptedSettings
  obtain ⟨himports, hnavigation⟩ := hscan hlisting hreading hbut
  exact ⟨himports, hnavigation, hbuild hon⟩

end Analysis

end ProjectCheck
