import ProjectCheck.Analysis.Project
import ProjectCheck.Proofs.Session.Agreement

/-!
# What a project scan depends on

A project scan touches a session in few ways: it runs two commands, loads the manifest, remembers a
tree, reads files and writes to the log.  Whatever relation between sessions these steps respect,
with two clients, the whole scan respects with them (`agree_runProjectScan`), and so does the search
for the imports of one file (`MissingImport.agree_findInSandbox`).
-/

namespace ProjectCheck

open ProjectCheck.Resolution

variable {τ : Type} [Sub τ] [LE τ] [DecidableLE τ]

/-- From related sessions two clients show the same manifest of a sandbox and, where no tree answers
for them, the same files. -/
structure ShowAlike (R : Session τ → Session τ → Prop) (c₁ c₂ : Client)
    (manifestPath sandbox : String) (tree : Option FileTree) : Prop where
  log : Work.RespectsLog R
  load : Work.Agree R (Manifest.load c₁ manifestPath sandbox) (Manifest.load c₂ manifestPath sandbox)
  read : tree = none → ∀ path, Work.Agree R (Sandbox.readContent c₁ sandbox path)
    (Sandbox.readContent c₂ sandbox path)

variable {R : Session τ → Session τ → Prop} {c₁ c₂ : Client} {manifestPath sandbox : String}
  {tree : Option FileTree}

/-- A client shows the same to a session and itself, whatever its steps keep. -/
lemma ShowAlike.of_keeps {I : Session τ → Prop} {client : Client}
    (hlog : ∀ ⦃s⦄ entries, I s → I (s.since [] entries))
    (hload : (Manifest.load client manifestPath sandbox).Keeps I)
    (hread : tree = none → ∀ path, (Sandbox.readContent client sandbox path).Keeps I) :
    ShowAlike (fun s t => s = t ∧ I s) client client manifestPath sandbox tree where
  log := by
    rintro s t entries ⟨rfl, hs⟩
    exact ⟨rfl, hlog entries hs⟩
  load := hload.agree
  read htree path := (hread htree path).agree

/-! ## Resolving -/

namespace Resolution.Sight

lemma agree_sees (h : ShowAlike R c₁ c₂ manifestPath sandbox tree) (path : String) :
    Work.Agree R ((Sight.of (some c₁) (some sandbox) tree).sees path)
      ((Sight.of (some c₂) (some sandbox) tree).sees path) := by
  cases tree with
  | some files => exact .pure _
  | none => exact (h.read rfl path).bind fun content => .pure content.isSome

lemma agree_findFirst (h : ShowAlike R c₁ c₂ manifestPath sandbox tree) (paths : List String) :
    Work.Agree R ((Sight.of (some c₁) (some sandbox) tree).findFirst paths)
      ((Sight.of (some c₂) (some sandbox) tree).findFirst paths) := by
  induction paths with
  | nil => exact .pure _
  | cons path rest ih =>
    rw [findFirst, findFirst]
    refine (agree_sees h path).bind fun seen => ?_
    cases seen with
    | true => exact .pure _
    | false => exact ih.bind fun _ => .pure _

end Resolution.Sight

lemma Resolver.agree_resolve (h : ShowAlike R c₁ c₂ manifestPath sandbox tree) (lead : String)
    (specifier origin : String) :
    Work.Agree R
      (Resolver.resolve ⟨some c₁, manifestPath, lead⟩ specifier origin (some sandbox) tree)
      (Resolver.resolve ⟨some c₂, manifestPath, lead⟩ specifier origin (some sandbox) tree) := by
  rw [resolve, resolve]
  cases Import.isPlatformModule specifier with
  | true => exact .pure _
  | false =>
    simp only [isLocal, Bool.false_eq_true, if_false]
    exact .ite (.pure _) (h.load.bind fun manifest => Sight.agree_findFirst h _)

/-! ## Missing imports -/

namespace MissingImport

lemma agree_check (h : ShowAlike R c₁ c₂ manifestPath sandbox tree) (lead : String) (path : String)
    (found : Text.Find Import.Declaration) :
    Work.Agree R (check ⟨some c₁, manifestPath, lead⟩ path sandbox tree found)
      (check ⟨some c₂, manifestPath, lead⟩ path sandbox tree found) := by
  simp only [check, Resolver.isLocal]
  refine .ite (.pure _) ?_
  refine (Resolver.agree_resolve h lead found.content.specifier path).bind fun resolution => ?_
  exact .ite (.pure _) ((Work.Agree.note h.log _).bind fun _ => .pure _)

lemma agree_checkAll (h : ShowAlike R c₁ c₂ manifestPath sandbox tree) (lead : String)
    (path : String) (declarations : List (Text.Find Import.Declaration)) :
    Work.Agree R (checkAll ⟨some c₁, manifestPath, lead⟩ path sandbox tree declarations)
      (checkAll ⟨some c₂, manifestPath, lead⟩ path sandbox tree declarations) := by
  induction declarations with
  | nil => exact .pure _
  | cons found rest ih =>
    rw [checkAll, checkAll]
    refine (agree_check h lead path found).bind fun finding => ?_
    exact ih.bind fun _ => .pure _

/-- Searching the imports of a file respects what showing the manifest and the files respects. -/
theorem agree_findInSandbox (h : ShowAlike R c₁ c₂ manifestPath sandbox tree) (lead : String)
    (path content : String) :
    Work.Agree R (findInSandbox ⟨some c₁, manifestPath, lead⟩ path content sandbox tree)
      (findInSandbox ⟨some c₂, manifestPath, lead⟩ path content sandbox tree) :=
  (agree_checkAll h lead path _).bind fun _ => .pure _

end MissingImport

/-! ## The project scan -/

namespace Analysis

lemma agree_checkScannedFile (h : ShowAlike R c₁ c₂ manifestPath sandbox tree) (lead : String)
    (file : Scan.ScannedFile) :
    Work.Agree R (checkScannedFile ⟨some c₁, manifestPath, lead⟩ sandbox tree file)
      (checkScannedFile ⟨some c₂, manifestPath, lead⟩ sandbox tree file) := by
  rw [checkScannedFile, checkScannedFile]
  refine (MissingImport.agree_findInSandbox h lead file.path file.content).settle.bind
    fun outcome => ?_
  cases outcome with
  | ok findings => exact .pure _
  | error why => exact (Work.Agree.note h.log _).bind fun _ => .pure _

lemma agree_checkScannedFiles (h : ShowAlike R c₁ c₂ manifestPath sandbox tree) (lead : String)
    (files : List Scan.ScannedFile) :
    Work.Agree R (checkScannedFiles ⟨some c₁, manifestPath, lead⟩ sandbox tree files)
      (checkScannedFiles ⟨some c₂, manifestPath, lead⟩ sandbox tree files) := by
  induction files with
  | nil => exact .pure _
  | cons file rest ih =>
    rw [checkScannedFiles, checkScannedFiles]
    refine (agree_checkScannedFile h lead file).bind fun findings => ?_
    exact ih.bind fun _ => .pure _

variable {settings : Settings}

/-- Checking a stream respects what showing files and remembering a tree respect. -/
lemma agree_checkStream (h : ShowAlike R c₁ c₂ settings.resolver.manifestPath sandbox tree)
    (htree : Work.Agree R (rememberTree sandbox tree) (rememberTree sandbox tree))
    (stream : Scan.Stream) :
    Work.Agree R (checkStream ⟨some c₁, settings⟩ sandbox tree stream)
      (checkStream ⟨some c₂, settings⟩ sandbox tree stream) := by
  rw [checkStream, checkStream]
  refine htree.bind fun _ => ?_
  refine (agree_checkScannedFiles h settings.resolver.aliasLead stream.files).bind
    fun imports => ?_
  exact (Work.Agree.note h.log _).bind fun _ => .pure _

/-- **What a project scan depends on.**  A relation between sessions that is respected by listing and
reading the files of a sandbox with two clients, by loading the manifest, by remembering a tree and
by reading files, is respected by the whole scan. -/
theorem agree_runProjectScan
    (h : ∀ tree, ShowAlike R c₁ c₂ settings.resolver.manifestPath sandbox tree)
    (htree : ∀ tree, Work.Agree R (rememberTree sandbox tree) (rememberTree sandbox tree))
    (hlisting : Work.Agree R (Scan.listFiles c₁ settings.scanner sandbox)
      (Scan.listFiles c₂ settings.scanner sandbox))
    (hreading : Work.Agree R (Scan.readFiles c₁ settings.scanner sandbox)
      (Scan.readFiles c₂ settings.scanner sandbox)) :
    Work.Agree R (runProjectScan ⟨some c₁, settings⟩ c₁ sandbox)
      (runProjectScan ⟨some c₂, settings⟩ c₂ sandbox) := by
  rw [runProjectScan, runProjectScan]
  refine hlisting.settle.bind fun tree => hreading.settle.bind fun stream => ?_
  refine (h none).load.settle.bind fun _ => ?_
  cases both tree stream with
  | ok results => exact agree_checkStream (h results.1) (htree results.1) results.2
  | error why =>
    exact .ite ((Work.Agree.note (h none).log _).bind fun _ => .pure _) (.throw why)

end Analysis

end ProjectCheck
