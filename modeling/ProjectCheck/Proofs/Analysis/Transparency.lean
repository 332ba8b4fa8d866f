import ProjectCheck.Proofs.Analysis.History
import ProjectCheck.Proofs.Cache.Lookup
import ProjectCheck.Proofs.Manifest.Loading

/-!
# Caching is transparent

With a client that always answers the same, an analyser that has done many things reports of a
project what a new one reports (`project_after_history`).

The invariant behind it is that a session is truthful: whatever manifest it remembers of a sandbox,
expired or not, is what the manifest file there says.  Nothing else that a session remembers matters
to a project analysis, since that never looks a tree up.  So two truthful sessions, which may
remember different things at different times, cannot be told apart by one
(`Session.IsTruthful.agree_load`), and every operation leaves a session truthful.
-/

namespace ProjectCheck

open ProjectCheck.Sandbox

/-- A client answers a request the same way whenever it is made. -/
structure Client.IsSteady (client : Client) : Prop where
  execute : ∀ earlier others sandbox command timeoutMs,
    client.execute earlier sandbox command timeoutMs =
      client.execute others sandbox command timeoutMs
  read : ∀ earlier others sandbox path,
    client.read earlier sandbox path = client.read others sandbox path

lemma Client.IsSteady.commandOutcome_eq {client : Client} (h : client.IsSteady)
    (earlier others : List Call) (sandbox command : String) (timeoutMs : Int) :
    commandOutcome client earlier sandbox command timeoutMs =
      commandOutcome client others sandbox command timeoutMs :=
  commandOutcome_congr (h.execute earlier others sandbox command timeoutMs)

/-- What comes of reading the manifest of a sandbox. -/
def Manifest.inSandbox (client : Client) (path sandbox : String) : Except Interruption Manifest :=
  (ofContent sandbox path (contentOf (client.read [] sandbox path))).map Prod.fst

variable {τ : Type}

/-- The manifests that a session remembers are what the manifest files say. -/
def Session.IsTruthful (client : Client) (path : String) (s : Session τ) : Prop :=
  ∀ entry ∈ s.manifests.entries, ∀ manifest, entry.2.value = some manifest →
    Manifest.inSandbox client path entry.1 = .ok manifest

/-- Two sessions are truthful, whatever each of them remembers. -/
def Session.BothTruthful (client : Client) (path : String) (s t : Session τ) : Prop :=
  s.IsTruthful client path ∧ t.IsTruthful client path

namespace Session

variable {client : Client} {path : String}

lemma isTruthful_start (client : Client) (path : String) (now manifestTtl treeTtl : τ) :
    (start now manifestTtl treeTtl).IsTruthful client path := by
  intro entry hentry
  simp [start, Cache.empty] at hentry

lemma ignoresPast_isTruthful (client : Client) (path : String) :
    Analysis.IgnoresPast (IsTruthful client path : Session τ → Prop) :=
  fun _ _ _ hs => hs

namespace IsTruthful

/-- A session that remembers no other manifests is truthful too. -/
lemma mono {s t : Session τ} (h : s.IsTruthful client path)
    (hsub : ∀ entry ∈ t.manifests.entries, entry ∈ s.manifests.entries) :
    t.IsTruthful client path :=
  fun entry hentry => h entry (hsub entry hentry)

variable [Sub τ] [LE τ] [DecidableLE τ]

/-- A truthful session loads the manifest that is in the sandbox, and is truthful afterwards. -/
lemma load (hsteady : client.IsSteady) (sandbox : String) {s : Session τ}
    (hs : s.IsTruthful client path) :
    ((Manifest.load client path sandbox).runIn s).1 = Manifest.inSandbox client path sandbox ∧
      ((Manifest.load client path sandbox).runIn s).2.IsTruthful client path := by
  rcases Manifest.runIn_load_cases client path sandbox s with
    ⟨m, hknown, hrun⟩ | ⟨why, hread, hrun⟩ | ⟨m, entry, hread, hrun⟩
  · obtain ⟨storedAt, hmem⟩ := Cache.exists_mem_of_get hknown
    rw [hrun]
    exact ⟨(hs _ hmem m rfl).symm, hs.mono fun _ => Cache.mem_of_mem_get⟩
  · rw [hsteady.read s.journal []] at hread
    rw [hrun, Manifest.inSandbox, hread]
    exact ⟨rfl, hs.mono fun _ => Cache.mem_of_mem_get⟩
  · rw [hsteady.read s.journal []] at hread
    have hsaid : Manifest.inSandbox client path sandbox = .ok m := by
      rw [Manifest.inSandbox, hread]
      rfl
    rw [hrun]
    refine ⟨hsaid.symm, fun stored hstored manifest hmanifest => ?_⟩
    rcases Cache.mem_of_mem_put hstored with rfl | hold
    · rw [hsaid, ← Option.some.inj hmanifest]
    · exact hs stored (Cache.mem_of_mem_get hold) manifest hmanifest

/-- Two truthful sessions load the same manifest, whatever each of them remembers. -/
lemma agree_load (hsteady : client.IsSteady) (sandbox : String) :
    Work.Agree (BothTruthful client path) (Manifest.load client path sandbox : Work τ _)
      (Manifest.load client path sandbox) := by
  rintro s t ⟨hs, ht⟩
  obtain ⟨hsaid, hsafter⟩ := hs.load hsteady sandbox
  obtain ⟨htaid, htafter⟩ := ht.load hsteady sandbox
  exact ⟨hsaid.trans htaid.symm, hsafter, htafter⟩

end IsTruthful

end Session

variable [Sub τ] [LE τ] [DecidableLE τ]

/-- A client that always answers the same shows the same to truthful sessions. -/
lemma showAlike_isTruthful {client : Client} (hsteady : client.IsSteady) (path sandbox : String)
    (tree : Option FileTree) :
    ShowAlike (Session.BothTruthful client path : Session τ → Session τ → Prop) client client path
      sandbox tree where
  log _ _ _ h := h
  load := Session.IsTruthful.agree_load hsteady sandbox
  read _ file := by
    rintro s t h
    rw [runIn_readContent, runIn_readContent, hsteady.read s.journal t.journal]
    exact ⟨rfl, h⟩

namespace Analysis

open ProjectCheck.Scan

variable {client : Client} {settings : Settings}

/-! ## What truthful sessions report -/

lemma agree_rememberTree_isTruthful (path sandbox : String) (tree : Option FileTree) :
    Work.Agree (Session.BothTruthful client path) (rememberTree sandbox tree : Work τ _)
      (rememberTree sandbox tree) :=
  fun _ _ h => ⟨rfl, h⟩

/-- The project scan finds the same from two truthful sessions. -/
lemma agree_runProjectScan_isTruthful (hsteady : client.IsSteady) (sandbox : String) :
    Work.Agree (Session.BothTruthful client settings.resolver.manifestPath)
      (runProjectScan ⟨some client, settings⟩ client sandbox : Work τ _)
      (runProjectScan ⟨some client, settings⟩ client sandbox) := by
  refine agree_runProjectScan (showAlike_isTruthful hsteady _ sandbox)
    (agree_rememberTree_isTruthful _ sandbox) ?_ ?_
  · exact agree_listFiles (fun _ _ _ _ _ h => h) fun _ _ _ => hsteady.execute _ _ sandbox _ _
  · exact agree_readFiles (fun _ _ _ _ _ h => h) fun _ _ _ => hsteady.execute _ _ sandbox _ _

lemma compilerOutcome_of_isSteady (hsteady : client.IsSteady) (settings : CompilerSettings)
    (sandbox : String) (earlier others : List Call) :
    compilerOutcome client settings sandbox earlier =
      compilerOutcome client settings sandbox others := by
  rw [compilerOutcome, compilerOutcome, hsteady.commandOutcome_eq earlier others]

lemma lintOutcome_of_isSteady (hsteady : client.IsSteady) (settings : CompilerSettings)
    (sandbox : String) (earlier others : List Call) :
    lintOutcome client settings sandbox earlier = lintOutcome client settings sandbox others := by
  rw [lintOutcome, lintOutcome]
  cases lintCommandOf settings with
  | none => rfl
  | some command =>
    dsimp only
    rw [hsteady.commandOutcome_eq earlier others]

omit [Sub τ] [LE τ] [DecidableLE τ] in
lemma isTruthful_beforeScan {path sandbox : String} {s : Session τ}
    (hs : s.IsTruthful client path) :
    (beforeScan ⟨some client, settings⟩ client sandbox s).IsTruthful client path := by
  obtain ⟨entries, hbefore⟩ := exists_beforeScan_eq ⟨some client, settings⟩ client sandbox s
  rw [hbefore]
  exact Session.ignoresPast_isTruthful client path _ entries hs

/-- The detectors end the same way from two truthful sessions. -/
theorem outcomesIn_of_isTruthful (hsteady : client.IsSteady) (sandbox : String) {s t : Session τ}
    (hs : s.IsTruthful client settings.resolver.manifestPath)
    (ht : t.IsTruthful client settings.resolver.manifestPath) :
    outcomesIn ⟨some client, settings⟩ client sandbox s =
      outcomesIn ⟨some client, settings⟩ client sandbox t := by
  have hcompiler : (outcomesIn ⟨some client, settings⟩ client sandbox s).compiler =
      (outcomesIn ⟨some client, settings⟩ client sandbox t).compiler := by
    rw [outcomesIn_compiler, outcomesIn_compiler]
    exact compilerOutcome_of_isSteady hsteady settings.compiler sandbox _ _
  have hlint : (outcomesIn ⟨some client, settings⟩ client sandbox s).lint =
      (outcomesIn ⟨some client, settings⟩ client sandbox t).lint := by
    rw [outcomesIn_lint, outcomesIn_lint]
    exact lintOutcome_of_isSteady hsteady settings.compiler sandbox _ _
  have hscan : (outcomesIn ⟨some client, settings⟩ client sandbox s).scan =
      (outcomesIn ⟨some client, settings⟩ client sandbox t).scan :=
    (agree_runProjectScan_isTruthful hsteady sandbox
      ⟨isTruthful_beforeScan hs, isTruthful_beforeScan ht⟩).1
  rw [Outcomes.mk.injEq]
  exact ⟨hcompiler, hlint, hscan⟩

/-! ## What keeps sessions truthful -/

/-- Every operation leaves a session truthful. -/
theorem isTruthful_after (hsteady : client.IsSteady) (operation : Operation τ) {s : Session τ}
    (hs : s.IsTruthful client settings.resolver.manifestPath) :
    (operation.after ⟨some client, settings⟩ s).IsTruthful client
      settings.resolver.manifestPath := by
  let path := settings.resolver.manifestPath
  have hpast : IgnoresPast (Session.IsTruthful client path : Session τ → Prop) :=
    Session.ignoresPast_isTruthful client path
  have hload (sandbox : String) :
      (Manifest.load client path sandbox : Work τ _).Keeps (Session.IsTruthful client path) :=
    fun _ ht => (ht.load hsteady sandbox).2
  cases operation with
  | project files sandbox =>
    exact keeps_project hpast (hload sandbox) (fun _ _ ht => ht) files hs
  | fileImports file sandbox =>
    exact keeps_fileImports hpast hload (fun _ _ ht => ht) file sandbox hs
  | fragment files => exact keeps_fragment hpast files .fragment hs
  -- these two only remove what is remembered, or let it expire
  | invalidate sandbox => exact hs.mono fun _ => Cache.mem_of_mem_invalidate
  | wait later => exact hs

/-- **Caching is transparent.**  If the client always answers the same, a project analysis after any
history reports what it reports in a session that remembers nothing, with any times to live and at
any time. -/
theorem project_after_history (client : Client) (settings : Settings) (hsteady : client.IsSteady)
    (history : List (Operation τ)) (files : List MemoryFile) (sandbox : String)
    (now later manifestTtl treeTtl : τ) :
    ∃ report,
      ((project ⟨some client, settings⟩ files sandbox).runIn
        (Operation.afterAll ⟨some client, settings⟩ history
          (.start now manifestTtl treeTtl))).1 = .ok report ∧
      ((project ⟨some client, settings⟩ files sandbox).runIn
        (.start later manifestTtl treeTtl)).1 = .ok report := by
  have hstart (time : τ) : (Session.start time manifestTtl treeTtl).IsTruthful client
      settings.resolver.manifestPath :=
    Session.isTruthful_start client _ time manifestTtl treeTtl
  have hhistory : (Operation.afterAll ⟨some client, settings⟩ history
      (.start now manifestTtl treeTtl)).IsTruthful client settings.resolver.manifestPath :=
    Operation.afterAll_induction (hstart now)
      fun operation _ _ ht => isTruthful_after hsteady operation ht
  obtain ⟨entries, hproject⟩ := runIn_project ⟨some client, settings⟩ sandbox
    (Operation.afterAll ⟨some client, settings⟩ history (.start now manifestTtl treeTtl)) files
  obtain ⟨others, hfresh⟩ := runIn_project ⟨some client, settings⟩ sandbox
    (.start later manifestTtl treeTtl) files
  refine ⟨_, congrArg Prod.fst hproject, ?_⟩
  rw [hfresh]
  simp only [Option.bind_some]
  rw [outcomesIn_of_isTruthful hsteady sandbox hhistory (hstart later)]

/-- Two sandboxes are analysed in turn, one of them is forgotten, a file is checked and time passes;
then the first sandbox is analysed again. -/
theorem project_after_two_sandboxes :
    let client : Client :=
      { execute := fun _ _ _ _ => .response (.result (.printing "src/a.ts"))
        read := fun _ _ path => if path = "tsconfig.json" then some (.text "\x7b\x7d") else none }
    let history : List (Operation Int) :=
      [.project [] "box", .project [] "chest", .invalidate (some "chest"),
        .fileImports ⟨"src/a.ts", some "import './b'"⟩ (some "box"), .wait 200]
    ∃ report,
      ((project ⟨some client, {}⟩ [] "box").runIn
        (Operation.afterAll ⟨some client, {}⟩ history (.start 0 300 300))).1 = .ok report ∧
      ((project ⟨some client, {}⟩ [] "box").runIn (.start (200 : Int) 300 300)).1 = .ok report := by
  intro client history
  have hsteady : client.IsSteady := ⟨fun _ _ _ _ _ => rfl, fun _ _ _ _ => rfl⟩
  exact project_after_history client {} hsteady history [] "box" 0 200 300 300

end Analysis

end ProjectCheck
