import ProjectCheck.Analysis.SingleFile
import ProjectCheck.Proofs.Analysis.Outcomes
import ProjectCheck.Proofs.Analysis.Searching

/-!
# Histories

One analyser does many things in a row on one session: it analyses projects, single files and files
in memory, it forgets what it remembers, and time passes.  A history is a list of such operations.

An analysis changes what a session remembers in three ways only: it loads a manifest, it remembers
or forgets a tree, and it looks a tree up.  An invariant that these steps keep, and that does not
speak of requests and log entries, is kept by every analysis (`keeps_project`, `keeps_fileImports`),
and what each operation keeps holds after the whole history (`Operation.afterAll_induction`).
-/

namespace ProjectCheck.Analysis

variable {τ α : Type}

/-! ## Invariants -/

/-- An invariant does not speak of what was asked and what was written to the log. -/
def IgnoresPast (I : Session τ → Prop) : Prop :=
  ∀ ⦃s⦄ calls entries, I s → I (s.since calls entries)

variable {I : Session τ → Prop}

lemma keeps_of_answers {step : Work τ α} {outcome : Session τ → Except Interruption α}
    {calls : List Call} (h : ∀ s, step.Answers s (outcome s) calls) (hpast : IgnoresPast I) :
    step.Keeps I := by
  intro s hs
  obtain ⟨entries, hrun⟩ := h s
  rw [hrun]
  exact hpast calls entries hs

variable [Sub τ] [LE τ] [DecidableLE τ]

/-- A client shows the same to a session and itself, whatever loading a manifest keeps. -/
lemma showAlike_of_keeps {client : Client} {manifestPath sandbox : String} (hpast : IgnoresPast I)
    (hload : (Manifest.load client manifestPath sandbox).Keeps I) (tree : Option FileTree) :
    ShowAlike (fun s t => s = t ∧ I s) client client manifestPath sandbox tree := by
  refine .of_keeps (fun _ entries hs => hpast [] entries hs) hload fun _ path s hs => ?_
  rw [Sandbox.runIn_readContent]
  exact hpast [.read sandbox path] [] hs

/-! ## What an analysis keeps -/

variable {a : Analyser} {sandbox : String}

omit [Sub τ] [LE τ] [DecidableLE τ] in
lemma keeps_fragment (hpast : IgnoresPast I) (files : List MemoryFile) (mode : Mode) :
    (fragment a files mode).Keeps I :=
  keeps_of_answers (answers_fragment a files mode) hpast

lemma keeps_runProjectScan {client : Client} {settings : Settings} (hpast : IgnoresPast I)
    (hload : (Manifest.load client settings.resolver.manifestPath sandbox).Keeps I)
    (htree : ∀ tree, (rememberTree sandbox tree).Keeps I) :
    (runProjectScan ⟨some client, settings⟩ client sandbox).Keeps I :=
  (agree_runProjectScan (showAlike_of_keeps hpast hload) (fun tree => (htree tree).agree)
    (keeps_of_answers (Scan.answers_listFiles client settings.scanner sandbox) hpast).agree
    (keeps_of_answers (Scan.answers_readFiles client settings.scanner sandbox) hpast).agree).keeps

/-- A project analysis keeps what loading the manifest and remembering a tree keep. -/
theorem keeps_project {client : Client} {settings : Settings} (hpast : IgnoresPast I)
    (hload : (Manifest.load client settings.resolver.manifestPath sandbox).Keeps I)
    (htree : ∀ tree, (rememberTree sandbox tree).Keeps I) (files : List MemoryFile) :
    (project ⟨some client, settings⟩ files sandbox).Keeps I := by
  intro s hs
  obtain ⟨entries, hbefore⟩ := exists_beforeScan_eq ⟨some client, settings⟩ client sandbox s
  obtain ⟨others, hproject⟩ := runIn_project ⟨some client, settings⟩ sandbox s files
  rw [hproject]
  refine hpast [] others (keeps_runProjectScan hpast hload htree ?_)
  rw [hbefore]
  exact hpast _ entries hs

lemma keeps_findImports {client : Client} {settings : Settings} (hpast : IgnoresPast I)
    (hload : ∀ sandbox, (Manifest.load client settings.resolver.manifestPath sandbox).Keeps I)
    (hlookUp : ∀ sandbox, (rememberedTree sandbox).Keeps I) (file : MemoryFile)
    (sandbox : Option String) :
    (findImports ⟨some client, settings⟩ file sandbox).Keeps I := by
  have hsame : Work.Agree (fun s t => s = t ∧ I s) (findImports ⟨some client, settings⟩ file sandbox)
      (findImports ⟨some client, settings⟩ file sandbox) := by
    cases sandbox with
    | none =>
      simp only [findImports]
      cases file.text with
      | none => exact .throw _
      | some text => exact .pure _
    | some name =>
      simp only [findImports]
      refine (hlookUp name).agree.bind fun tree => ?_
      cases file.text with
      | none => exact .throw _
      | some text =>
        exact MissingImport.agree_findInSandbox (showAlike_of_keeps hpast (hload name) tree) _ _ _
  exact hsame.keeps

/-- The analysis of one file keeps what loading a manifest and looking up a tree keep. -/
theorem keeps_fileImports {client : Client} {settings : Settings} (hpast : IgnoresPast I)
    (hload : ∀ sandbox, (Manifest.load client settings.resolver.manifestPath sandbox).Keeps I)
    (hlookUp : ∀ sandbox, (rememberedTree sandbox).Keeps I) (file : MemoryFile)
    (sandbox : Option String) :
    (fileImports ⟨some client, settings⟩ file sandbox).Keeps I := by
  intro s hs
  have hfind : I ((findImports ⟨some client, settings⟩ file sandbox).runIn s).2 :=
    keeps_findImports hpast hload hlookUp file sandbox hs
  rw [fileImports, Work.runIn_settle_bind]
  cases ((findImports ⟨some client, settings⟩ file sandbox).runIn s).1 with
  | ok findings => exact hfind
  | error why => exact hpast [] [_] hfind

/-! ## Operations -/

/-- One thing that is done with an analyser. -/
inductive Operation (τ : Type) where
  | project (files : List MemoryFile) (sandbox : String)
  | fileImports (file : MemoryFile) (sandbox : Option String)
  | fragment (files : List MemoryFile)
  /-- What is remembered of one sandbox, or of all, is forgotten. -/
  | invalidate (sandbox : Option String)
  /-- Time passes. -/
  | wait (later : τ)

namespace Operation

/-- The session after an operation. -/
def after (a : Analyser) : Operation τ → Session τ → Session τ
  | .project files sandbox, s => ((Analysis.project a files sandbox).runIn s).2
  | .fileImports file sandbox, s => ((Analysis.fileImports a file sandbox).runIn s).2
  | .fragment files, s => ((Analysis.fragment a files).runIn s).2
  | .invalidate sandbox, s => s.invalidate sandbox
  | .wait later, s => s.atTime later

/-- The session after a history. -/
def afterAll (a : Analyser) (history : List (Operation τ)) (s : Session τ) : Session τ :=
  history.foldl (fun s operation => operation.after a s) s

@[simp] lemma afterAll_nil (a : Analyser) (s : Session τ) : afterAll a [] s = s :=
  rfl

@[simp] lemma afterAll_cons (a : Analyser) (operation : Operation τ)
    (history : List (Operation τ)) (s : Session τ) :
    afterAll a (operation :: history) s = afterAll a history (operation.after a s) :=
  rfl

/-- What each operation of a history keeps holds after all of it. -/
theorem afterAll_induction {history : List (Operation τ)} {s : Session τ} (hs : I s)
    (hkeeps : ∀ operation ∈ history, ∀ t, I t → I (operation.after a t)) :
    I (afterAll a history s) := by
  induction history generalizing s with
  | nil =>
    rw [afterAll_nil]
    exact hs
  | cons operation rest ih =>
    obtain ⟨hfirst, hrest⟩ := List.forall_mem_cons.1 hkeeps
    rw [afterAll_cons]
    exact ih (hfirst s hs) hrest

end Operation

end ProjectCheck.Analysis
