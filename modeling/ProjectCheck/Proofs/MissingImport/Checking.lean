import Mathlib.Data.List.Forall2
import Mathlib.Data.List.TakeWhile
import ProjectCheck.MissingImport
import ProjectCheck.Proofs.Manifest.Stripping
import ProjectCheck.Proofs.Resolution.FirstFound

/-!
# What checking imports comes to

Which declarations of a file are looked up (`IsChecked`), which of these stand for nothing
(`IsMissing`), and what checking all of them comes to from a session in which nothing changes what a
sandbox shows: one finding for each declaration that stands for nothing, and nothing else
(`find_reports_missing`).

`Stands` is the invariant that carries the checks from one declaration to the next: the files that
are seen, the content of the manifest file and what loading the manifest comes to are the same after
a check as before it, whatever the check has asked for.  With it a run of checks is a list of
independent ones (`runIn_checkAll`, `runIn_checkAll_of_error`).

Only a manifest whose values are nested too deeply keeps a file from being checked
(`not_forall_missing_reported`).
-/

namespace ProjectCheck.MissingImport

open ProjectCheck.Resolution ProjectCheck.Text

/-! ## Which declarations are found missing -/

/-- A specifier is looked up if it names no asset, is relative or begins like an alias, and names no
module of the platform. -/
def IsChecked (r : Resolver) (specifier : String) : Prop :=
  Import.isAsset specifier = false ∧
    (IsRelativePath specifier ∨ r.aliasLead.toList <+: specifier.toList) ∧
    Import.isPlatformModule specifier = false

instance (r : Resolver) (specifier : String) : Decidable (IsChecked r specifier) :=
  inferInstanceAs (Decidable (_ ∧ _ ∧ _))

/-- A declaration of a file in a sandbox stands for nothing: it is looked up, and none of its
candidates is seen. -/
def IsMissing (r : Resolver) (manifest : Manifest) (path name : String) (seen : String → Bool)
    (found : Find Import.Declaration) : Prop :=
  IsChecked r found.content.specifier ∧
    ∀ candidate ∈ candidateSequence manifest found.content.specifier path (some name),
      seen candidate = false

instance (r : Resolver) (manifest : Manifest) (path name : String) (seen : String → Bool)
    (found : Find Import.Declaration) : Decidable (IsMissing r manifest path name seen found) :=
  inferInstanceAs (Decidable (_ ∧ _))

/-- A search among paths of which none exists finds nothing and has tried all of them. -/
lemma firstFound_of_absent {present : String → Bool} {paths : List String}
    (h : ∀ path ∈ paths, present path = false) :
    firstFound present paths = { target := none, tried := paths } := by
  have hnone : paths.find? present = none := List.find?_eq_none.2 fun path hpath => by
    rw [h path hpath]
    simp
  have hall : paths.takeWhile (fun path => !present path) = paths :=
    List.takeWhile_eq_self_iff.2 fun path hpath => by rw [h path hpath]; rfl
  rw [firstFound, hnone, hall]
  simp

lemma isFound_firstFound {present : String → Bool} {paths : List String}
    (h : ¬ ∀ path ∈ paths, present path = false) : (firstFound present paths).isFound = true := by
  simp only [not_forall, Bool.not_eq_false] at h
  obtain ⟨path, hpath, hpresent⟩ := h
  exact List.find?_isSome.2 ⟨path, hpath, hpresent⟩

/-! ## What stays as it is -/

variable {τ : Type} [Sub τ] [LE τ] [DecidableLE τ]

/-- From a session on, a sandbox shows certain files and its manifest is loaded with a certain
outcome, whatever is asked for. -/
structure Stands (r : Resolver) (name : String) (tree : Option FileTree)
    (loaded : Except Interruption Manifest) (seen : String → Bool) (s : Session τ) : Prop where
  shows : ∀ calls, (Sight.of r.client (some name) tree).seesAt (calls ++ s.journal) = seen
  steady : ∀ client, r.client = some client → Manifest.IsSteady client r.manifestPath name s
  loads : ((Manifest.of r.client r.manifestPath (some name)).runIn s).1 = loaded

variable {r : Resolver} {name path : String} {tree : Option FileTree}
  {loaded : Except Interruption Manifest} {seen : String → Bool} {s : Session τ}

lemma Stands.isSteady (h : Stands r name tree loaded seen s) :
    (Sight.of r.client (some name) tree).IsSteady s := by
  intro calls path
  have hnow := h.shows []
  rw [List.nil_append] at hnow
  rw [h.shows, hnow]

lemma Stands.seesAt (h : Stands r name tree loaded seen s) :
    (Sight.of r.client (some name) tree).seesAt s.journal = seen :=
  h.shows []

/-- Requests and log entries change nothing of it. -/
lemma Stands.since (h : Stands r name tree loaded seen s) (calls : List Call)
    (entries : List LogEntry) : Stands r name tree loaded seen (s.since calls entries) where
  shows more := by
    rw [Session.journal_since, ← List.append_assoc]
    exact h.shows (more ++ calls)
  steady client hclient :=
    ((h.steady client hclient).of_journal calls (Session.journal_since s calls entries)).1
  loads := by
    rw [← h.loads]
    cases hclient : r.client with
    | none => rfl
    | some client => exact Manifest.fst_runIn_load_since (h.steady client hclient) calls entries

/-- The trees that are remembered do not matter to it. -/
lemma Stands.withTrees (h : Stands r name tree loaded seen s) (trees : Cache τ String FileTree) :
    Stands r name tree loaded seen { s with trees } where
  shows := h.shows
  steady := h.steady
  loads := by
    rw [← h.loads]
    cases hclient : r.client with
    | none => rfl
    | some client => rw [Manifest.of_some, Manifest.fst_runIn_load, Manifest.fst_runIn_load]

/-- Loading the manifest changes nothing of it. -/
lemma Stands.load (h : Stands r name tree loaded seen s) :
    Stands r name tree loaded seen
      ((Manifest.of r.client r.manifestPath (some name)).runIn s).2 where
  shows calls := by
    have hjournal := Manifest.journal_of r.client r.manifestPath (some name) s
    rcases hjournal with hsame | ⟨sandbox, -, hread⟩
    · rw [hsame]
      exact h.shows calls
    · rw [hread, ← List.singleton_append, ← List.append_assoc]
      exact h.shows _
  steady client hclient := by
    rw [hclient]
    exact (h.steady client hclient).load.1
  loads := by
    rw [← h.loads]
    cases hclient : r.client with
    | none => rfl
    | some client => exact Manifest.fst_runIn_load_load (h.steady client hclient)

lemma Stands.exists_runIn_load (h : Stands r name tree loaded seen s) :
    ∃ t, Stands r name tree loaded seen t ∧
      (Manifest.of r.client r.manifestPath (some name)).runIn s = (loaded, t) :=
  ⟨_, h.load, Prod.ext h.loads rfl⟩

/-! ## One declaration -/

/-- A declaration that is not looked up costs nothing and gives nothing. -/
lemma runIn_check_of_not_checked {found : Find Import.Declaration}
    (h : ¬ IsChecked r found.content.specifier) (s : Session τ) :
    (check r path name tree found).runIn s = (.ok none, s) := by
  rw [check]
  cases hasset : Import.isAsset found.content.specifier with
  | true => rfl
  | false =>
    cases hlocal : r.isLocal found.content.specifier with
    | false => rfl
    | true =>
      have hplatform : Import.isPlatformModule found.content.specifier = true := by
        by_contra hplatform
        exact h ⟨hasset, isLocal_iff.1 hlocal, by simpa using hplatform⟩
      simp only [Bool.not_true, Bool.or_self, Bool.false_eq_true, if_false]
      rw [Work.runIn_bind_of_ok (runIn_resolve_of_platform hplatform)]
      rfl

/-- A declaration that is looked up is resolved, and is a finding if it stands for nothing. -/
lemma check_of_checked {found : Find Import.Declaration}
    (h : IsChecked r found.content.specifier) :
    (check r path name tree found : Work τ (Option Diagnostic)) =
      r.resolve found.content.specifier path (some name) tree >>= fun resolution =>
        if resolution.isFound then pure none
        else
          Work.note (.info "import_unresolved"
            [("file", .text path), ("specifier", .text found.content.specifier),
             ("candidates", .ofNat resolution.tried.length)]) >>= fun _ =>
            pure (some (unresolved path found resolution.tried tree)) := by
  have hlocal : r.isLocal found.content.specifier = true := isLocal_iff.2 h.2.1
  rw [check, h.1, hlocal]
  rfl

variable (path) in
/-- If the manifest cannot be loaded, a declaration that is looked up breaks off. -/
lemma runIn_check_of_error {why : Interruption} (h : Stands r name tree (.error why) seen s)
    {found : Find Import.Declaration} (hchecked : IsChecked r found.content.specifier) :
    ∃ t, Stands r name tree (.error why) seen t ∧
      (check r path name tree found).runIn s = (.error why, t) := by
  obtain ⟨t, hstands, hload⟩ := h.exists_runIn_load
  have hresolve : (r.resolve found.content.specifier path (some name) tree).runIn s =
      (.error why, t) :=
    (runIn_resolve_of_local hchecked.2.2 (isLocal_iff.2 hchecked.2.1)).trans
      (Work.runIn_bind_of_error hload)
  exact ⟨t, hstands, by rw [check_of_checked hchecked, Work.runIn_bind_of_error hresolve]⟩

variable (path) in
/-- **Checking one declaration.**  With a manifest, it is a finding exactly if it stands for
nothing, and the finding shows its whole sequence of candidates. -/
lemma runIn_check {manifest : Manifest} (h : Stands r name tree (.ok manifest) seen s)
    (found : Find Import.Declaration) :
    ∃ t, Stands r name tree (.ok manifest) seen t ∧
      (check r path name tree found).runIn s =
        (.ok (if IsMissing r manifest path name seen found then
          some (unresolved path found
            (candidateSequence manifest found.content.specifier path (some name)) tree)
        else none), t) := by
  by_cases hchecked : IsChecked r found.content.specifier
  · obtain ⟨s₁, hstands, hload⟩ := h.exists_runIn_load
    let sight := Sight.of r.client (some name) tree
    let sequence := candidateSequence manifest found.content.specifier path (some name)
    let tried := (firstFound seen sequence).tried
    have hfind : (sight.findFirst sequence).runIn s₁ =
        (.ok (firstFound seen sequence), s₁.since (sight.requests tried).reverse []) := by
      have hsteady : sight.IsSteadyOn sequence s₁ := fun calls path _ => hstands.isSteady calls path
      have hrun := runIn_findFirst hsteady
      rwa [hstands.seesAt] at hrun
    have hresolve : (r.resolve found.content.specifier path (some name) tree).runIn s =
        (.ok (firstFound seen sequence), s₁.since (sight.requests tried).reverse []) := by
      rw [runIn_resolve_of_local hchecked.2.2 (isLocal_iff.2 hchecked.2.1),
        Work.runIn_bind_of_ok hload, candidates_of_loaded hload, hfind]
    rw [check_of_checked hchecked, Work.runIn_bind_of_ok hresolve]
    by_cases habsent : ∀ candidate ∈ sequence, seen candidate = false
    · have hmissing : IsMissing r manifest path name seen found := ⟨hchecked, habsent⟩
      have hfound : firstFound seen sequence = { target := none, tried := sequence } :=
        firstFound_of_absent habsent
      rw [if_pos hmissing, hfound]
      exact ⟨_, (hstands.since _ []).since [] [_], rfl⟩
    · have hmissing : ¬ IsMissing r manifest path name seen found := fun h => habsent h.2
      have hfound : (firstFound seen sequence).isFound = true := isFound_firstFound habsent
      rw [if_neg hmissing, hfound]
      exact ⟨_, hstands.since _ [], rfl⟩
  · rw [if_neg fun hmissing => hchecked hmissing.1]
    exact ⟨s, h, runIn_check_of_not_checked hchecked s⟩

/-! ## All declarations -/

variable (path) in
/-- **Checking all declarations.**  With a manifest, those that stand for nothing are the findings,
in order. -/
theorem runIn_checkAll {manifest : Manifest} (h : Stands r name tree (.ok manifest) seen s)
    (declarations : List (Find Import.Declaration)) :
    ∃ t, Stands r name tree (.ok manifest) seen t ∧
      (checkAll r path name tree declarations).runIn s =
        (.ok ((declarations.filter (IsMissing r manifest path name seen ·)).map fun found =>
          unresolved path found
            (candidateSequence manifest found.content.specifier path (some name)) tree), t) := by
  induction declarations generalizing s with
  | nil => exact ⟨s, h, rfl⟩
  | cons found rest ih =>
    obtain ⟨s₁, hfirst, hcheck⟩ := runIn_check path h found
    obtain ⟨t, hlast, hrest⟩ := ih hfirst
    refine ⟨t, hlast, ?_⟩
    rw [checkAll, Work.runIn_bind_of_ok hcheck, Work.runIn_bind_of_ok hrest, List.filter_cons]
    by_cases hmissing : IsMissing r manifest path name seen found
    · simp [hmissing]
    · simp [hmissing]

variable (path) in
/-- Without a manifest the first declaration that is looked up breaks the checks off. -/
theorem runIn_checkAll_of_error {why : Interruption}
    (h : Stands r name tree (.error why) seen s) (declarations : List (Find Import.Declaration)) :
    ∃ t, Stands r name tree (.error why) seen t ∧
      (checkAll r path name tree declarations).runIn s =
        (if ∃ found ∈ declarations, IsChecked r found.content.specifier then .error why
        else .ok [], t) := by
  induction declarations with
  | nil => exact ⟨s, h, by simp [checkAll]⟩
  | cons found rest ih =>
    by_cases hchecked : IsChecked r found.content.specifier
    · obtain ⟨t, hstands, hbroken⟩ := runIn_check_of_error path h hchecked
      refine ⟨t, hstands, ?_⟩
      rw [checkAll, Work.runIn_bind_of_error hbroken, if_pos ⟨found, List.mem_cons_self, hchecked⟩]
    · obtain ⟨t, hstands, hrest⟩ := ih
      refine ⟨t, hstands, ?_⟩
      have hsame : (∃ other ∈ found :: rest, IsChecked r other.content.specifier) ↔
          ∃ other ∈ rest, IsChecked r other.content.specifier := by
        simp [hchecked]
      rw [checkAll, Work.runIn_bind_of_ok (runIn_check_of_not_checked hchecked s), Work.runIn_bind,
        hrest]
      simp only [hsame]
      by_cases hneeds : ∃ other ∈ rest, IsChecked r other.content.specifier
      · simp only [if_pos hneeds]
      · simp only [if_neg hneeds]
        rfl

/-! ## A file -/

/-- A finding reports an import declaration of a file. -/
structure Reports (path : String) (severity : Severity) (found : Find Import.Declaration)
    (d : Diagnostic) : Prop where
  subject : d.subject = .missingImport (.text found.content.specifier)
  category : d.category = .imports
  severity_eq : d.severity = severity
  autoFixable : d.autoFixable = .bool true
  file : d.file = .text path
  line : d.line = .ofNat found.line

/-- The candidates that a finding shows among its details. -/
def ShowsCandidates (candidates : List String) (d : Diagnostic) : Prop :=
  d.details.member? "candidates" = some (.list (candidates.map .text))

omit [Sub τ] [LE τ] [DecidableLE τ] in
lemma forall₂_map_right {α β : Type} {R : α → β → Prop} {f : α → β} (h : ∀ a, R a (f a))
    (as : List α) : List.Forall₂ R as (as.map f) := by
  rw [List.forall₂_map_right_iff]
  exact List.forall₂_same.2 fun a _ => h a

/-- What checking a file comes to.  With a manifest it has a finding for each declaration that
stands for nothing, and then those about its exports; without one it is checked only if none of its
declarations is looked up. -/
def outcomeOn (r : Resolver) (name : String) (tree : Option FileTree)
    (loaded : Except Interruption Manifest) (seen : String → Bool) (path content : String) :
    Except Interruption (List Diagnostic) :=
  match loaded with
  | .ok manifest =>
    .ok (((Import.declarations content).filter (IsMissing r manifest path name seen ·)).map
        (fun found => unresolved path found
          (candidateSequence manifest found.content.specifier path (some name)) tree) ++
      MissingExport.find path content)
  | .error why =>
    if ∃ found ∈ Import.declarations content, IsChecked r found.content.specifier then .error why
    else .ok (MissingExport.find path content)

/-- **Checking a file.** -/
theorem runIn_find (h : Stands r name tree loaded seen s) (path content : String) :
    ∃ t, Stands r name tree loaded seen t ∧
      (find (some r) path content (some name) tree).runIn s =
        (outcomeOn r name tree loaded seen path content, t) := by
  have hfind : (find (some r) path content (some name) tree).runIn s =
      (findInSandbox r path content name tree).runIn s := rfl
  rw [hfind, findInSandbox]
  cases loaded with
  | ok manifest =>
    obtain ⟨t, hstands, hrun⟩ := runIn_checkAll path h (Import.declarations content)
    exact ⟨t, hstands, Work.runIn_bind_of_ok hrun⟩
  | error why =>
    obtain ⟨t, hstands, hrun⟩ :=
      runIn_checkAll_of_error path h (Import.declarations content)
    refine ⟨t, hstands, ?_⟩
    rw [Work.runIn_bind, hrun, outcomeOn]
    by_cases hneeds : ∃ found ∈ Import.declarations content, IsChecked r found.content.specifier
    · simp only [if_pos hneeds]
    · simp only [if_neg hneeds]
      rfl

omit [Sub τ] [LE τ] [DecidableLE τ] in
/-- A manifest file of a sandbox is a text or absent, and no request changes it. -/
def HasManifestText (r : Resolver) (name : String) (s : Session τ) (text : Option String) : Prop :=
  ∀ client, r.client = some client → ∀ calls,
    Sandbox.contentOf (client.read (calls ++ s.journal) name r.manifestPath) = text.map .text

omit [Sub τ] [LE τ] [DecidableLE τ] in
lemma HasManifestText.isSteady {text : Option String} (h : HasManifestText r name s text)
    {client : Client} (hclient : r.client = some client) :
    Manifest.IsSteady client r.manifestPath name s := by
  intro calls
  have hnow := h client hclient []
  rw [List.nil_append] at hnow
  rw [h client hclient calls, hnow]

/-- A session in which no request changes what a sandbox shows or what its manifest file says. -/
lemma stands_of_steady {text : Option String}
    (hsight : (Sight.of r.client (some name) tree).IsSteady s)
    (hmanifest : HasManifestText r name s text) :
    Stands r name tree ((Manifest.of r.client r.manifestPath (some name)).runIn s).1
      ((Sight.of r.client (some name) tree).seesAt s.journal) s where
  shows calls := funext fun path => hsight calls path
  steady _ hclient := hmanifest.isSteady hclient
  loads := rfl

/-- Loading a manifest that is a text or absent fails only for a text that is nested too deeply. -/
lemma eq_tooDeep_of_loads {text : Option String} {why : Interruption}
    (hmanifest : HasManifestText r name s text)
    (h : ((Manifest.of r.client r.manifestPath (some name)).runIn s).1 = .error why) :
    why = .tooDeep ∧ ∃ deep, text = some deep ∧ Manifest.parse deep = .error .tooDeep := by
  cases hclient : r.client with
  | none =>
    rw [hclient] at h
    contradiction
  | some client =>
    have hread : Sandbox.contentOf (client.read s.journal name r.manifestPath) =
        text.map .text := hmanifest client hclient []
    have htext : Sandbox.contentOf (client.read s.journal name r.manifestPath) = none ∨
        ∃ t, Sandbox.contentOf (client.read s.journal name r.manifestPath) = some (.text t) := by
      rw [hread]
      cases text with
      | none => exact Or.inl rfl
      | some t => exact Or.inr ⟨t, rfl⟩
    rw [hclient, Manifest.of_some] at h
    rcases Manifest.load_text_or_absent client r.manifestPath name s htext with
      ⟨m, hm⟩ | ⟨deep, hdeep, hparse, hload⟩
    · rw [hm] at h
      contradiction
    · rw [hread] at hdeep
      rw [hload] at h
      refine ⟨(Except.error.inj h).symm, deep, ?_, hparse⟩
      cases text with
      | none => contradiction
      | some t => exact congrArg some (Value.text.inj (Option.some.inj hdeep))

/-- **Exactly the imports that stand for nothing are reported.**  In a session in which no request
changes what a sandbox shows, let its manifest file be a text or absent.  With the manifest that is
loaded from it, the findings about a file are one of high severity for each import declaration that
stands for nothing, in order and with its whole sequence of candidates, and behind them those about
its exports.  The manifest is loaded unless its text is nested too deeply; then the file is not
checked at all if one of its imports needs the manifest.  Without a resolver or a sandbox there is
one finding of low severity for each doubtful import that names no asset, and nothing is asked
for. -/
theorem find_reports_missing (r : Resolver) (path content name : String) (tree : Option FileTree)
    (s : Session τ) (text : Option String)
    (hsight : (Sight.of r.client (some name) tree).IsSteady s)
    (hmanifest : HasManifestText r name s text) :
    let declarations := Import.declarations content
    let seen := (Sight.of r.client (some name) tree).seesAt s.journal
    let loaded := ((Manifest.of r.client r.manifestPath (some name)).runIn s).1
    let result := ((find (some r) path content (some name) tree).runIn s).1
    (∀ manifest, loaded = .ok manifest →
      ∃ imports, result = .ok (imports ++ MissingExport.find path content) ∧
        List.Forall₂ (fun found d => Reports path .high found d ∧
            ShowsCandidates
              (candidateSequence manifest found.content.specifier path (some name)) d)
          (declarations.filter (IsMissing r manifest path name seen ·)) imports) ∧
    (∀ why, loaded = .error why →
      (∃ deep, text = some deep ∧ Manifest.parse deep = .error .tooDeep) ∧
        result =
          if ∃ found ∈ declarations, IsChecked r found.content.specifier then .error .tooDeep
          else .ok (MissingExport.find path content)) ∧
    (∀ resolver sandbox, resolver = none ∨ sandbox = none →
      ∃ imports, (find resolver path content sandbox tree).runIn s =
          (.ok (imports ++ MissingExport.find path content), s) ∧
        List.Forall₂ (Reports path .low)
          (declarations.filter fun found => !Import.isAsset found.content.specifier &&
            Import.isDoubtful found.content.specifier) imports) := by
  intro declarations seen loaded result
  obtain ⟨t, -, hchecked⟩ := runIn_find (stands_of_steady hsight hmanifest) path content
  have hrun : result = outcomeOn r name tree loaded seen path content := congrArg Prod.fst hchecked
  refine ⟨fun manifest hloaded => ?_, fun why hloaded => ?_, fun resolver sandbox hnone => ?_⟩
  · rw [hloaded] at hrun
    refine ⟨_, hrun, forall₂_map_right (fun found => ?_) _⟩
    exact ⟨⟨rfl, rfl, rfl, rfl, rfl, rfl⟩, rfl⟩
  · obtain ⟨rfl, hdeep⟩ := eq_tooDeep_of_loads hmanifest hloaded
    rw [hloaded] at hrun
    exact ⟨hdeep, hrun⟩
  · have hrun : (find resolver path content sandbox tree).runIn s =
        (.ok (findAlone path content), s) := by
      rcases hnone with rfl | rfl
      · rfl
      · cases resolver <;> rfl
    refine ⟨findDoubtful path content, hrun, forall₂_map_right (fun found => ?_) _⟩
    exact ⟨rfl, rfl, rfl, rfl, rfl, rfl⟩

/-- A file with an import that is there, one that is missing and an asset. -/
def threeImports : String :=
  "import b from './b'\nimport a from './a'\nimport './a.css'\n"

/-- Of three imports the one that stands for nothing is reported, with its line. -/
theorem find_reports_one_of_three :
    let r : Resolver := { client := some (oneFileClient "src/b.ts") }
    let s : Session Int := .start 0 300 300
    (Sight.of r.client (some "box") none).IsSteady s ∧ HasManifestText r "box" s none ∧
      ∃ d, ((find (some r) "src/x.ts" threeImports (some "box") none).runIn s).1 = .ok [d] ∧
        d.subject = .missingImport (.text "./a") ∧ d.severity = .high ∧ d.line = .ofNat 2 ∧
        ShowsCandidates ["src/a.ts", "src/a.tsx", "src/a.js", "src/a.jsx"] d := by
  intro r s
  have hsight : (Sight.of r.client (some "box") none).IsSteady s := fun _ _ => rfl
  have hmanifest : HasManifestText r "box" s none := by
    rintro client ⟨⟩ calls
    rfl
  refine ⟨hsight, hmanifest, ?_⟩
  obtain ⟨hchecked, -, -⟩ :=
    find_reports_missing r "src/x.ts" threeImports "box" none s none hsight hmanifest
  obtain ⟨imports, hresult, hreports⟩ := hchecked {} rfl
  have hmissing : ((Import.declarations threeImports).filter (IsMissing r {} "src/x.ts" "box"
      ((Sight.of r.client (some "box") none).seesAt s.journal) ·)).map
        (fun found => (found.content.specifier, found.line)) = [("./a", 2)] := by
    decide +kernel
  obtain ⟨found, hfound, hplace⟩ := List.map_eq_singleton_iff.1 hmissing
  obtain ⟨hspecifier, hline⟩ := Prod.mk.inj hplace
  rw [hfound] at hreports
  obtain ⟨d, others, ⟨hd, hcandidates⟩, hnil, rfl⟩ := List.forall₂_cons_left_iff.1 hreports
  obtain rfl := List.forall₂_nil_left_iff.1 hnil
  have hexports : MissingExport.find "src/x.ts" threeImports = [] := rfl
  have hsequence : candidateSequence {} "./a" "src/x.ts" (some "box") =
      ["src/a.ts", "src/a.tsx", "src/a.js", "src/a.jsx"] := by
    decide +kernel
  rw [hexports] at hresult
  rw [hspecifier, hsequence] at hcandidates
  refine ⟨d, hresult, ?_, hd.severity_eq, ?_, hcandidates⟩
  · rw [hd.subject, hspecifier]
  · rw [hd.line, hline]

/-- A manifest that is nested too deeply. -/
def deepManifest : String :=
  String.ofList (List.replicate 1000 '[')

/-- A client of sandboxes that hold nothing but a manifest that is nested too deeply. -/
def deepClient : Client where
  execute _ _ _ _ := .timeout
  read _ _ path := if path = "tsconfig.json" then some (.text deepManifest) else none

/-- **A deep manifest keeps a file from being checked.**  Its manifest is a text, and yet there are
no findings about the file. -/
theorem not_forall_missing_reported :
    ¬ ∀ (r : Resolver) (path content name : String) (tree : Option FileTree) (s : Session Int)
        (text : Option String), (Sight.of r.client (some name) tree).IsSteady s →
      HasManifestText r name s text →
      ∃ findings, ((find (some r) path content (some name) tree).runIn s).1 = .ok findings := by
  intro h
  let r : Resolver := { client := some deepClient }
  let s : Session Int := .start 0 300 300
  have hsight : (Sight.of r.client (some "box") none).IsSteady s := fun _ _ => rfl
  have hmanifest : HasManifestText r "box" s (some deepManifest) := by
    rintro client ⟨⟩ calls
    rfl
  have hdeep : Manifest.parse deepManifest = .error .tooDeep :=
    Manifest.parse_brackets (by decide)
  have hloads : ((Manifest.of r.client r.manifestPath (some "box")).runIn s).1 =
      .error .tooDeep := by
    change ((Manifest.load deepClient "tsconfig.json" "box").runIn s).1 = _
    rw [Manifest.fst_runIn_load]
    change (Manifest.ofContent "box" "tsconfig.json" (some (.text deepManifest))).map Prod.fst = _
    rw [Manifest.ofContent, hdeep]
    rfl
  have hneeds : ∃ found ∈ Import.declarations "import a from './a'",
      IsChecked r found.content.specifier := by
    decide +kernel
  obtain ⟨findings, hfindings⟩ :=
    h r "src/x.ts" "import a from './a'" "box" none s (some deepManifest) hsight hmanifest
  obtain ⟨t, -, hrun⟩ :=
    runIn_find (stands_of_steady hsight hmanifest) "src/x.ts" "import a from './a'"
  rw [hrun, hloads, outcomeOn, if_pos hneeds] at hfindings
  contradiction

end ProjectCheck.MissingImport
