import Mathlib.Algebra.Order.Group.Int
import ProjectCheck.Proofs.Analysis.Scanning
import ProjectCheck.Proofs.Cache.Lookup

/-!
# The requests of a project analysis

However large a project is, its analysis sends at most four commands, one for each purpose; and
where its listing gives a tree and its manifest can be taken in, it reads no file but the manifest,
once (`project_requests_bounded`).

The invariant of the second half is that the session remembers a manifest of the sandbox.  The scan
loads the manifest before it checks any file, so that each of the checks, however many there are,
finds the manifest in memory and the candidates in the tree (`journal_checkStream`).  What is
remembered cannot expire meanwhile, since an analysis takes no time.
-/

namespace ProjectCheck

variable {τ : Type}

/-! ## A remembered manifest -/

section

variable [Sub τ] [LE τ] [DecidableLE τ]

/-- A session remembers a manifest of a sandbox, and is not changed by looking it up. -/
def Session.Remembers (sandbox : String) (m : Manifest) (s : Session τ) : Prop :=
  s.manifests.get sandbox s.now = (some m, s.manifests)

/-- A session that remembers a manifest loads it without any request and stays as it is. -/
lemma Session.Remembers.runIn_load {client : Client} {path sandbox : String} {m : Manifest}
    {s : Session τ} (h : s.Remembers sandbox m) :
    (Manifest.load client path sandbox).runIn s = (.ok m, s) := by
  rw [Manifest.runIn_load_of_remembered client path (congrArg Prod.fst h)]
  rw [Session.Remembers] at h
  rw [h]

/-- After a manifest was loaded it is remembered, if what was read could be taken in and does not
expire at once.  Loading read the manifest file at most, and not if a manifest was known already. -/
lemma Manifest.remembers_load {client : Client} {path sandbox : String} {s : Session τ}
    (hmanifest : IsUsable (Sandbox.contentOf (client.read s.journal sandbox path)))
    (hlasts : s.manifests.LastsAt s.now) :
    ∃ m reads, ((load client path sandbox).runIn s).2.Remembers sandbox m ∧
      ((load client path sandbox).runIn s).2.journal = reads ++ s.journal ∧
      (reads = [] ∨ reads = [.read sandbox path]) ∧
      ((s.manifests.get sandbox s.now).1.isSome = true → reads = []) := by
  cases hknown : (s.manifests.get sandbox s.now).1 with
  | some m =>
    have hget := Cache.get_eq_of_some hknown
    rw [runIn_load_of_remembered client path hknown]
    refine ⟨m, [], ?_, rfl, Or.inl rfl, fun _ => rfl⟩
    rw [Session.Remembers]
    dsimp only
    rw [hget]
    exact hget
  | none =>
    obtain ⟨m, entry, hsaid⟩ := exists_ofContent_of_isUsable sandbox path hmanifest
    rw [runIn_load_of_forgotten client path hknown, runIn_store_of_ok hsaid]
    refine ⟨m, [.read sandbox path], ?_, rfl, Or.inr rfl, by simp⟩
    exact Cache.get_put_self (by rwa [Cache.LastsAt, Cache.ttl_get]) sandbox (some m)

end

namespace Analysis

open ProjectCheck.Scan

/-! ## Checks without requests -/

section

variable [Sub τ] [LE τ] [DecidableLE τ]
variable {client : Client} {settings : Settings} {sandbox : String}

/-- Where a tree answers for the files and the manifest is remembered, checking the files of a scan
asks for nothing, however many they are. -/
lemma journal_checkStream {m : Manifest} (files : FileTree) (stream : Stream) {s : Session τ}
    (hs : s.Remembers sandbox m) :
    ((checkStream ⟨some client, settings⟩ sandbox (some files) stream).runIn s).2.journal =
      s.journal := by
  let undisturbed (t : Session τ) : Prop := t.journal = s.journal ∧ t.Remembers sandbox m
  have hload : (Manifest.load client settings.resolver.manifestPath sandbox).Keeps undisturbed := by
    intro t ht
    rw [ht.2.runIn_load]
    exact ht
  have hshow : ShowAlike (fun t u => t = u ∧ undisturbed t) client client
      settings.resolver.manifestPath sandbox (some files) :=
    .of_keeps (fun _ _ ht => ht) hload (by simp)
  have htree : (rememberTree sandbox (some files)).Keeps undisturbed := fun _ ht => ht
  exact ((agree_checkStream hshow htree.agree stream).keeps ⟨rfl, hs⟩).1

/-! ## Checks that read files -/

/-- Since a session with some requests, only files of one sandbox were read. -/
def OnlyReadSince (sandbox : String) (earlier : List Call) (s : Session τ) : Prop :=
  ∃ paths : List String, s.journal = paths.map (.read sandbox) ++ earlier

omit [Sub τ] [LE τ] [DecidableLE τ] in
lemma OnlyReadSince.read {earlier : List Call} {s t : Session τ} {path : String}
    (h : OnlyReadSince sandbox earlier s) (ht : t.journal = .read sandbox path :: s.journal) :
    OnlyReadSince sandbox earlier t := by
  obtain ⟨paths, hs⟩ := h
  exact ⟨path :: paths, by rw [ht, hs]; rfl⟩

lemma keeps_load_onlyReadSince (path : String) (earlier : List Call) :
    (Manifest.load client path sandbox : Work τ _).Keeps (OnlyReadSince sandbox earlier) := by
  intro s hs
  rcases Manifest.journal_load client path sandbox s with hsame | hread
  · rw [OnlyReadSince, hsame]
    exact hs
  · exact hs.read hread

/-- What a project scan does behind its commands is to read files of its sandbox. -/
lemma keeps_goOn_onlyReadSince (client : Client) (settings : Settings) (earlier : List Call)
    (seen : Except Interruption (Option FileTree × Stream)) :
    (goOn ⟨some client, settings⟩ sandbox seen : Work τ _).Keeps
      (OnlyReadSince sandbox earlier) := by
  intro s hs
  rcases seen with why | ⟨tree, stream⟩
  · rw [goOn]
    split <;> exact hs
  · have hread (path : String) : (Sandbox.readContent client sandbox path : Work τ _).Keeps
        (OnlyReadSince sandbox earlier) := fun t ht => ht.read rfl
    have hshow : ShowAlike (fun t u => t = u ∧ OnlyReadSince sandbox earlier t) client client
        settings.resolver.manifestPath sandbox tree :=
      .of_keeps (fun _ _ ht => ht) (keeps_load_onlyReadSince _ earlier) fun _ => hread
    have htree : (rememberTree sandbox tree : Work τ _).Keeps (OnlyReadSince sandbox earlier) :=
      fun _ ht => ht
    exact (agree_checkStream hshow htree.agree stream).keeps hs

/-! ## The requests of an analysis -/

omit [Sub τ] [LE τ] [DecidableLE τ] in
lemma fst_of_both {α β : Type} {first : Except Interruption α} {second : Except Interruption β}
    {results : α × β} (h : both first second = .ok results) : first = .ok results.1 := by
  cases first with
  | error why => cases second <;> simp [both] at h
  | ok a =>
    cases second with
    | error why => simp [both] at h
    | ok b =>
      rw [both, Except.ok.injEq] at h
      rw [← h]

/-- The requests of a project analysis up to the end of its detectors, the latest first: the files
that it reads, and before them its commands.  If the listing gives a tree and the manifest can be
taken in and does not expire at once, no file but the manifest is read, and not even that one if it
is known already. -/
lemma journal_afterScan (client : Client) (settings : Settings) (sandbox : String)
    (s : Session τ) :
    let commands :=
      scanRequests settings.scanner sandbox ++ requestsBeforeScan settings.compiler sandbox
    ∃ paths : List String,
      (afterScan ⟨some client, settings⟩ client sandbox s).journal =
        paths.map (.read sandbox) ++ (commands ++ s.journal) ∧
      ∀ tree,
        listingOutcome client settings.scanner sandbox
          (requestsBeforeScan settings.compiler sandbox ++ s.journal) = .ok (some tree) →
        Manifest.IsUsable (Sandbox.contentOf
          (client.read (commands ++ s.journal) sandbox settings.resolver.manifestPath)) →
        s.manifests.LastsAt s.now →
        (paths = [] ∨ paths = [settings.resolver.manifestPath]) ∧
          ((s.manifests.get sandbox s.now).1.isSome = true → paths = []) := by
  intro commands
  obtain ⟨entries, hbefore⟩ := exists_beforeScan_eq ⟨some client, settings⟩ client sandbox s
  obtain ⟨others, hscan⟩ := runIn_runProjectScan client settings sandbox
    (s.since (requestsBeforeScan settings.compiler sandbox) entries)
  rw [Session.since_since] at hscan
  let asked : Session τ := s.since commands (others ++ entries)
  let loaded := ((Manifest.load client settings.resolver.manifestPath sandbox).runIn asked).2
  let seen := seenByScan client settings.scanner sandbox
    (requestsBeforeScan settings.compiler sandbox ++ s.journal)
  have hafter : afterScan ⟨some client, settings⟩ client sandbox s =
      ((goOn ⟨some client, settings⟩ sandbox seen).runIn loaded).2 := by
    rw [afterScan, hbefore]
    exact congrArg Prod.snd hscan
  have hasked : OnlyReadSince sandbox (commands ++ s.journal) asked := ⟨[], rfl⟩
  obtain ⟨paths, hpaths⟩ := keeps_goOn_onlyReadSince client settings _ seen
    (keeps_load_onlyReadSince settings.resolver.manifestPath _ hasked)
  rw [hafter]
  refine ⟨paths, hpaths, fun tree hlisting hmanifest hlasts => ?_⟩
  obtain ⟨m, reads, hremembers, hreads, hone, hknown⟩ :=
    Manifest.remembers_load (s := asked) hmanifest hlasts
  -- behind loading the manifest nothing more is asked for
  have hquiet : ((goOn ⟨some client, settings⟩ sandbox seen).runIn loaded).2.journal =
      loaded.journal := by
    cases hseen : seen with
    | error why =>
      rw [goOn]
      split <;> rfl
    | ok results =>
      obtain ⟨tree', stream⟩ := results
      have hlisted := fst_of_both hseen
      rw [hlisting] at hlisted
      obtain rfl : some tree = tree' := Except.ok.inj hlisted
      exact journal_checkStream tree stream hremembers
  have hsame : paths.map (Call.read sandbox) = reads := by
    have happend : paths.map (.read sandbox) ++ (commands ++ s.journal) =
        reads ++ (commands ++ s.journal) := by
      rw [← hpaths, hquiet]
      exact hreads
    exact List.append_cancel_right happend
  refine ⟨?_, fun h => List.map_eq_nil_iff.1 (hsame.trans (hknown h))⟩
  rcases hone with rfl | rfl
  · exact Or.inl (List.map_eq_nil_iff.1 hsame)
  · obtain ⟨path, rfl, hpath⟩ := List.map_eq_singleton_iff.1 hsame
    rw [(Call.read.inj hpath).2]
    exact Or.inr rfl

/-- The commands that a project analysis may send, in order: that of the compiler if it is enabled,
that of the linter if one is set, the listing and the reading. -/
def projectCommands (settings : Settings) (sandbox : String) : List (String × String × Int) :=
  (if settings.compiler.enabled then
    [(sandbox, settings.compiler.command, settings.compiler.timeoutMs)] else []) ++
  (lintCommandOf settings.compiler).toList.map
    (fun command => (sandbox, command, settings.compiler.lintTimeoutMs)) ++
  [(sandbox, listingCommand settings.scanner, settings.scanner.treeTimeoutMs)] ++
  [(sandbox, readingCommand settings.scanner, settings.scanner.batchTimeoutMs)]

omit [Sub τ] [LE τ] [DecidableLE τ] in
/-- A command is sent at most once. -/
lemma asCommand?_requestOf (sandbox command : String) (timeoutMs : Int) :
    ((Sandbox.requestOf sandbox command timeoutMs).reverse.filterMap Call.asCommand?).Sublist
      [(sandbox, command, timeoutMs)] := by
  rw [Sandbox.requestOf]
  cases Sandbox.isSent timeoutMs <;> simp [Call.asCommand?]

omit [Sub τ] [LE τ] [DecidableLE τ] in
/-- Up to the end of its reading a project analysis has sent its commands at most. -/
lemma asCommand?_requests (settings : Settings) (sandbox : String) :
    ((scanRequests settings.scanner sandbox ++
      requestsBeforeScan settings.compiler sandbox).reverse.filterMap Call.asCommand?).Sublist
        (projectCommands settings sandbox) := by
  rw [scanRequests, requestsBeforeScan]
  simp only [List.reverse_append, List.filterMap_append, ← List.append_assoc]
  refine .append (.append (.append ?_ ?_) ?_) ?_
  · rw [compilerRequest]
    split
    · exact asCommand?_requestOf _ _ _
    · exact .slnil
  · rw [lintRequest]
    cases lintCommandOf settings.compiler with
    | none => exact .slnil
    | some command => exact asCommand?_requestOf _ _ _
  · exact asCommand?_requestOf _ _ _
  · exact asCommand?_requestOf _ _ _

omit [Sub τ] [LE τ] [DecidableLE τ] in
lemma asRead?_requestOf (sandbox command : String) (timeoutMs : Int) :
    (Sandbox.requestOf sandbox command timeoutMs).filterMap Call.asRead? = [] := by
  rw [Sandbox.requestOf]
  split <;> rfl

omit [Sub τ] [LE τ] [DecidableLE τ] in
/-- Up to the end of its reading a project analysis has read no single file. -/
lemma asRead?_requests (settings : Settings) (sandbox : String) :
    (scanRequests settings.scanner sandbox ++
      requestsBeforeScan settings.compiler sandbox).filterMap Call.asRead? = [] := by
  have hcompiler : (compilerRequest settings.compiler sandbox).filterMap Call.asRead? = [] := by
    rw [compilerRequest]
    split
    · exact asRead?_requestOf _ _ _
    · rfl
  have hlint : (lintRequest settings.compiler sandbox).filterMap Call.asRead? = [] := by
    rw [lintRequest]
    cases lintCommandOf settings.compiler with
    | none => rfl
    | some command => exact asRead?_requestOf _ _ _
  simp only [scanRequests, requestsBeforeScan, readingRequest, listingRequest,
    List.filterMap_append, asRead?_requestOf, hcompiler, hlint, List.append_nil]

/-- **The requests of a project analysis are bounded, however large the project is.**  Without a
client there are none.  Else the commands among them are those of the analysis, in order and each at
most once: the compiler's if it is enabled, the linter's if one is set, the listing and the reading.
If moreover the listing gives a tree, the manifest is absent or a text that is not nested too
deeply, and what is remembered of it does not expire at once, then the manifest is the only file
that is read, at most once, and not at all if it is known already and has not expired. -/
theorem project_requests_bounded (a : Analyser) (files : List MemoryFile) (sandbox : String)
    (s : Session τ) :
    ∃ calls : List Call,
      ((project a files sandbox).runIn s).2.calls = s.calls ++ calls ∧
      (a.client = none → calls = []) ∧
      (calls.filterMap Call.asCommand?).Sublist (projectCommands a.settings sandbox) ∧
      ∀ client tree, a.client = some client →
        let beforeScan := requestsBeforeScan a.settings.compiler sandbox ++ s.journal
        listingOutcome client a.settings.scanner sandbox beforeScan = .ok (some tree) →
        Manifest.IsUsable (Sandbox.contentOf
          (client.read (scanRequests a.settings.scanner sandbox ++ beforeScan) sandbox
            a.settings.resolver.manifestPath)) →
        s.manifests.LastsAt s.now →
        (calls.filterMap Call.asRead?).Sublist [(sandbox, a.settings.resolver.manifestPath)] ∧
          ((s.manifests.get sandbox s.now).1.isSome = true →
            calls.filterMap Call.asRead? = []) := by
  obtain ⟨_ | client, settings⟩ := a
  · obtain ⟨entries, hproject⟩ := runIn_project ⟨none, settings⟩ sandbox s files
    rw [hproject]
    refine ⟨[], ?_, fun _ => rfl, List.nil_sublist _, fun _ _ h => by simp at h⟩
    simp [Session.calls]
  obtain ⟨entries, hproject⟩ := runIn_project ⟨some client, settings⟩ sandbox s files
  obtain ⟨paths, hjournal, hbounded⟩ := journal_afterScan client settings sandbox s
  let commands :=
    scanRequests settings.scanner sandbox ++ requestsBeforeScan settings.compiler sandbox
  have hreads : (commands.reverse ++ paths.reverse.map (Call.read sandbox)).filterMap Call.asRead? =
      paths.reverse.map (sandbox, ·) := by
    rw [List.filterMap_append, List.filterMap_reverse, asRead?_requests]
    simp [List.filterMap_map, Function.comp_def, Call.asRead?]
  refine ⟨commands.reverse ++ paths.reverse.map (Call.read sandbox), ?_, by simp, ?_, ?_⟩
  · rw [hproject]
    simp only [Option.map_some, Option.getD_some, Session.calls, Session.journal_since,
      List.nil_append]
    rw [hjournal]
    simp [commands]
  · rw [List.filterMap_append, List.filterMap_map]
    have hnone : paths.reverse.filterMap (Call.asCommand? ∘ Call.read sandbox) = [] :=
      List.filterMap_eq_nil_iff.2 fun _ _ => rfl
    rw [hnone, List.append_nil]
    exact asCommand?_requests settings sandbox
  · rintro client' tree ⟨rfl⟩ beforeScan hlisting hmanifest hlasts
    obtain ⟨hone, hknown⟩ := hbounded tree hlisting
      (by rwa [List.append_assoc]) hlasts
    rw [hreads]
    refine ⟨?_, fun h => by rw [hknown h]; rfl⟩
    rcases hone with rfl | rfl
    · exact List.nil_sublist _
    · exact List.Sublist.refl _

end

/-- A client whose second and third answers are a listing of two files and their contents, with four
imports, and which has a manifest. -/
def twoFilesClient : Client where
  execute earlier _ _ _ :=
    match earlier.length with
    | 1 => .response (.result (.printing "src/a.ts\nsrc/b.ts\n"))
    | 2 => .response (.result (.printing
        ("___FILE_SEPARATOR___\nsrc/a.ts\nimport b from './b'\nimport c from './c'\n" ++
          "___END_FILE___\n___FILE_SEPARATOR___\nsrc/b.ts\nimport a from '@/a'\n" ++
          "import d from '@/d'\n___END_FILE___\n")))
    | _ => .response (.result (.printing ""))
  read _ _ path := if path = "tsconfig.json" then some (.text "\x7b\x7d") else none

/-- Four imports are resolved, and only the manifest is read. -/
theorem requests_of_two_files :
    let s : Session Int := .start 0 300 300
    let tree := FileTree.ofListing "src/a.ts\nsrc/b.ts\n"
    let beforeScan := requestsBeforeScan {} "box"
    listingOutcome twoFilesClient {} "box" beforeScan = .ok (some tree) ∧
      Manifest.IsUsable (Sandbox.contentOf
        (twoFilesClient.read (scanRequests {} "box" ++ beforeScan) "box" "tsconfig.json")) ∧
      s.manifests.LastsAt s.now ∧
      ∃ calls : List Call,
        ((project ⟨some twoFilesClient, {}⟩ [] "box").runIn s).2.calls = s.calls ++ calls ∧
        (calls.filterMap Call.asCommand?).Sublist (projectCommands {} "box") ∧
        (calls.filterMap Call.asRead?).Sublist [("box", "tsconfig.json")] := by
  intro s tree beforeScan
  have hlisting : listingOutcome twoFilesClient {} "box" beforeScan = .ok (some tree) := rfl
  have hempty : (Manifest.parse "\x7b\x7d").isOk = true := by decide +kernel
  have hmanifest : Manifest.IsUsable (Sandbox.contentOf
      (twoFilesClient.read (scanRequests {} "box" ++ beforeScan) "box" "tsconfig.json")) := by
    refine Or.inr ⟨"\x7b\x7d", rfl, fun hdeep => ?_⟩
    rw [hdeep] at hempty
    exact absurd hempty (by decide)
  have hlasts : s.manifests.LastsAt s.now := by
    have hpos : 0 < s.manifests.ttl := by decide
    exact Cache.lastsAt_of_pos hpos s.now
  obtain ⟨calls, hcalls, -, hcommands, hreads⟩ :=
    project_requests_bounded ⟨some twoFilesClient, {}⟩ [] "box" s
  refine ⟨hlisting, hmanifest, hlasts, calls, hcalls, hcommands, ?_⟩
  exact (hreads twoFilesClient tree rfl hlisting hmanifest hlasts).1

end Analysis

end ProjectCheck
