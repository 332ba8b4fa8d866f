import ProjectCheck.Proofs.Analysis.Interference
import ProjectCheck.Proofs.Analysis.Scanning
import ProjectCheck.Proofs.FileTree.Listing
import ProjectCheck.Proofs.MissingImport.Checking

/-!
# Broken listings

What a hybrid report says about imports, file by file (`imports_of_hybrid`): in a sandbox whose
files do not change, each scanned file contributes what checking it alone comes to, with the tree of
the listing if there is one.

From this it follows what becomes of a listing that failed and names no file.  If it printed
nothing, there is no tree, and no import is reported of which a candidate can be read.  But if it
printed blanks, its tree is taken for that of an empty project, and every import that is looked up
is reported (`imports_of_broken_listing`).
-/

namespace ProjectCheck

open ProjectCheck.MissingImport ProjectCheck.Resolution ProjectCheck.Sandbox ProjectCheck.Scan
open ProjectCheck.Text

/-! ## Listings that name no file -/

lemma FileTree.contains_ofListing_of_blank {listing : String}
    (h : ∀ line ∈ textLines listing.toList, AllBlank line) (path : String) :
    (ofListing listing).contains path = false := by
  have hpaths : (textLines listing.toList).filterMap pathOfLine? = [] := by
    rw [List.filterMap_eq_nil_iff]
    exact fun line hline => pathOfLine?_of_blank (h line hline)
  have htree : ofListing listing = ⟨[]⟩ := by
    rw [ofListing, ofLines, hpaths, List.eraseDups_nil, List.mergeSort_nil]
  rw [htree]
  rfl

/-! ## Findings about imports -/

namespace MissingExport

/-- A finding about exports counts among the imports and shows no candidates. -/
lemma subject_of_mem_find {path content : String} :
    ∀ d ∈ find path content,
      d.subject.isImport = true ∧ d.details.member? "candidates" = none :=
  forall_mem_find (fun _ _ _ => ⟨rfl, rfl⟩) ⟨rfl, rfl⟩

end MissingExport

namespace Analysis

/-- What checking a scanned file contributes to a report: nothing if that is broken off. -/
def contribution (r : Resolver) (sandbox : String) (tree : Option FileTree)
    (loaded : Except Interruption Manifest) (seen : String → Bool) (file : ScannedFile) :
    List Diagnostic :=
  match outcomeOn r sandbox tree loaded seen file.path file.content with
  | .ok findings => findings
  | .error _ => []

section

variable {r : Resolver} {sandbox : String} {tree : Option FileTree}
  {loaded : Except Interruption Manifest} {seen : String → Bool} {file : ScannedFile}

lemma mem_contribution {d : Diagnostic} (h : d ∈ contribution r sandbox tree loaded seen file) :
    (∃ manifest found, loaded = .ok manifest ∧ found ∈ Import.declarations file.content ∧
        IsMissing r manifest file.path sandbox seen found ∧
        d = unresolved file.path found
          (candidateSequence manifest found.content.specifier file.path (some sandbox)) tree) ∨
      d ∈ MissingExport.find file.path file.content := by
  cases loaded with
  | ok manifest =>
    rw [contribution, outcomeOn] at h
    rcases List.mem_append.1 h with h | h
    · obtain ⟨found, hfound, rfl⟩ := List.mem_map.1 h
      obtain ⟨hdeclared, hmissing⟩ := List.mem_filter.1 hfound
      exact Or.inl ⟨manifest, found, rfl, hdeclared, of_decide_eq_true hmissing, rfl⟩
    · exact Or.inr h
  | error why =>
    rw [contribution, outcomeOn] at h
    by_cases hneeds : ∃ found ∈ Import.declarations file.content,
        IsChecked r found.content.specifier
    · simp only [if_pos hneeds, List.not_mem_nil] at h
    · simp only [if_neg hneeds] at h
      exact Or.inr h

lemma isImport_of_mem_contribution :
    ∀ d ∈ contribution r sandbox tree loaded seen file, d.subject.isImport = true := by
  intro d hd
  rcases mem_contribution hd with ⟨manifest, found, -, -, -, rfl⟩ | hd
  · rfl
  · exact (MissingExport.subject_of_mem_find d hd).1

/-- The candidates that a finding shows cannot be seen. -/
lemma not_seen_of_mem_contribution {d : Diagnostic} {candidates : List String} {path : String}
    (h : d ∈ contribution r sandbox tree loaded seen file) (hshows : ShowsCandidates candidates d)
    (hpath : path ∈ candidates) : seen path = false := by
  rcases mem_contribution h with ⟨manifest, found, -, -, hmissing, rfl⟩ | hd
  · have hsame : candidates.map Value.text = (candidateSequence manifest found.content.specifier
        file.path (some sandbox)).map Value.text :=
      (Value.list.inj (Option.some.inj hshows)).symm
    have hcandidates := (List.map_injective_iff.2 fun _ _ => Value.text.inj) hsame
    exact hmissing.2 path (hcandidates ▸ hpath)
  · rw [ShowsCandidates, (MissingExport.subject_of_mem_find d hd).2] at hshows
    contradiction

/-- A declaration that stands for nothing is a finding, if there is a manifest. -/
lemma unresolved_mem_contribution {manifest : Manifest} {found : Find Import.Declaration}
    (hfound : found ∈ Import.declarations file.content)
    (hmissing : IsMissing r manifest file.path sandbox seen found) :
    unresolved file.path found
        (candidateSequence manifest found.content.specifier file.path (some sandbox)) tree ∈
      contribution r sandbox tree (.ok manifest) seen file := by
  refine List.mem_append_left _ (List.mem_map.2 ⟨found, ?_, rfl⟩)
  exact List.mem_filter.2 ⟨hfound, decide_eq_true hmissing⟩

end

lemma isImport_of_mem_linkFindings {settings : DetectorSettings} {files : List ScannedFile} :
    ∀ d ∈ linkFindings settings files, d.subject.isImport = false := by
  intro d hd
  rw [linkFindings] at hd
  split at hd
  · obtain ⟨file, -, hfound⟩ := List.mem_flatMap.1 hd
    obtain ⟨link, -, rfl⟩ := List.mem_map.1 hfound
    rfl
  · simp at hd

variable {τ : Type} [Sub τ] [LE τ] [DecidableLE τ]

/-- Checking scanned files gives what each of them contributes. -/
lemma runIn_checkScannedFiles {r : Resolver} {sandbox : String} {tree : Option FileTree}
    {loaded : Except Interruption Manifest} {seen : String → Bool} {s : Session τ}
    (h : Stands r sandbox tree loaded seen s) (files : List ScannedFile) :
    ∃ t, (checkScannedFiles r sandbox tree files).runIn s =
      (.ok (files.flatMap (contribution r sandbox tree loaded seen)), t) := by
  induction files generalizing s with
  | nil => exact ⟨s, rfl⟩
  | cons file rest ih =>
    obtain ⟨s₁, hfirst, hfind⟩ := runIn_find h file.path file.content
    have hfile : ∃ s₂, Stands r sandbox tree loaded seen s₂ ∧
        (checkScannedFile r sandbox tree file).runIn s =
          (.ok (contribution r sandbox tree loaded seen file), s₂) := by
      rw [checkScannedFile, Work.runIn_settle_bind, hfind, contribution]
      cases outcomeOn r sandbox tree loaded seen file.path file.content with
      | ok findings => exact ⟨s₁, hfirst, rfl⟩
      | error why => exact ⟨_, hfirst.since [] [_], rfl⟩
    obtain ⟨s₂, hsecond, hcheck⟩ := hfile
    obtain ⟨t, hrest⟩ := ih hsecond
    refine ⟨t, ?_⟩
    rw [checkScannedFiles, Work.runIn_bind_of_ok hcheck, Work.runIn_bind_of_ok hrest]
    rfl

/-! ## Hybrid reports -/

/-- The files of a sandbox can be read, and no request changes them. -/
def HoldsTexts (client : Client) (sandbox : String) (texts : String → Option String) : Prop :=
  ∀ earlier path, contentOf (client.read earlier sandbox path) = (texts path).map .text

/-- What a tree or, without one, a sandbox with some files shows. -/
def shownBy (texts : String → Option String) (tree : Option FileTree) (path : String) : Bool :=
  match tree with
  | some tree => tree.contains path
  | none => (texts path).isSome

lemma stands_of_holdsTexts {client : Client} {sandbox : String}
    {texts : String → Option String} (h : HoldsTexts client sandbox texts) (settings : Settings)
    (tree : Option FileTree) (s : Session τ) :
    Stands (Analyser.resolver ⟨some client, settings⟩) sandbox tree
      ((Manifest.load client settings.resolver.manifestPath sandbox).runIn s).1
      (shownBy texts tree) s where
  shows calls := by
    funext path
    cases tree with
    | some tree => rfl
    | none =>
      change (contentOf (client.read (calls ++ s.journal) sandbox path)).isSome = _
      rw [h, Option.isSome_map]
      rfl
  steady := by
    rintro _ ⟨⟩ calls
    rw [h, h]
  loads := rfl

/-- The findings of a project scan that was completed, in a sandbox whose files do not change. -/
lemma findings_runProjectScan {client : Client} {settings : Settings} {sandbox : String}
    {texts : String → Option String} (hreads : HoldsTexts client sandbox texts) {s : Session τ}
    {tree : Option FileTree} {stream : Stream}
    (hseen : seenByScan client settings.scanner sandbox s.journal = .ok (tree, stream)) :
    findingsOf ((runProjectScan ⟨some client, settings⟩ client sandbox).runIn s).1 =
      stream.files.flatMap (contribution (Analyser.resolver ⟨some client, settings⟩) sandbox tree
        ((Manifest.load client settings.resolver.manifestPath sandbox).runIn s).1
        (shownBy texts tree)) ++
      linkFindings settings.detectors stream.files := by
  obtain ⟨entries, hrun⟩ := runIn_runProjectScan client settings sandbox s
  have hloaded := ((stands_of_holdsTexts hreads settings tree s).since
    (scanRequests settings.scanner sandbox) entries).load
  let s₁ := ((Manifest.load client settings.resolver.manifestPath sandbox).runIn
    (s.since (scanRequests settings.scanner sandbox) entries)).2
  let remembering := ((rememberTree sandbox tree).runIn s₁).2
  have hremember : (rememberTree sandbox tree).runIn s₁ = (.ok (), remembering) := rfl
  obtain ⟨t, hfiles⟩ := runIn_checkScannedFiles (hloaded.withTrees remembering.trees) stream.files
  replace hfiles : (checkScannedFiles (Analyser.resolver ⟨some client, settings⟩) sandbox tree
      stream.files).runIn remembering = _ := hfiles
  rw [hrun, hseen, goOn, checkStream, Work.runIn_bind_of_ok hremember, Work.runIn_bind_of_ok hfiles]
  rfl

/-- **What a hybrid report says about imports.**  In a sandbox whose files do not change, it holds
what each scanned file contributes, and nothing else. -/
theorem imports_of_hybrid {client : Client} {settings : Settings} {files : List MemoryFile}
    {sandbox : String} {texts : String → Option String} (hreads : HoldsTexts client sandbox texts)
    {s : Session τ} {tree : Option FileTree} {stream : Stream} {report : Report}
    (hseen : seenByScan client settings.scanner sandbox
      (requestsBeforeScan settings.compiler sandbox ++ s.journal) = .ok (tree, stream))
    (hreport : ((project ⟨some client, settings⟩ files sandbox).runIn s).1 = .ok report)
    (hmode : report.mode = .hybrid) :
    report.imports =
      stream.files.flatMap (contribution (Analyser.resolver ⟨some client, settings⟩) sandbox tree
        ((Manifest.load client settings.resolver.manifestPath sandbox).runIn s).1
        (shownBy texts tree)) := by
  obtain ⟨entries, hbefore⟩ := exists_beforeScan_eq ⟨some client, settings⟩ client sandbox s
  have hloads : ((Manifest.load client settings.resolver.manifestPath sandbox).runIn
      (beforeScan ⟨some client, settings⟩ client sandbox s)).1 =
        ((Manifest.load client settings.resolver.manifestPath sandbox).runIn s).1 := by
    rw [hbefore]
    exact ((stands_of_holdsTexts hreads settings tree s).since _ entries).loads
  have hbeforeSeen : seenByScan client settings.scanner sandbox
      (beforeScan ⟨some client, settings⟩ client sandbox s).journal = .ok (tree, stream) := by
    rw [hbefore]
    exact hseen
  have hfound := findings_runProjectScan hreads hbeforeSeen
  have hlinks : (linkFindings settings.detectors stream.files).filter
      (fun d => d.subject.isImport) = [] := by
    refine List.filter_eq_nil_iff.2 fun d hd => ?_
    rw [isImport_of_mem_linkFindings d hd]
    simp
  have himports : ∀ d ∈ stream.files.flatMap (contribution
      (Analyser.resolver ⟨some client, settings⟩) sandbox tree
      ((Manifest.load client settings.resolver.manifestPath sandbox).runIn s).1
      (shownBy texts tree)), d.subject.isImport = true := by
    intro d hd
    obtain ⟨file, -, hfile⟩ := List.mem_flatMap.1 hd
    exact isImport_of_mem_contribution d hfile
  rw [(groups_of_hybrid hreport hmode).2.1, outcomesIn, hfound, hloads, List.filter_append, hlinks,
    List.append_nil, List.filter_eq_self.2 himports]

/-! ## Listings that failed -/

/-- What a scan sees if its listing and its reading were both answered. -/
lemma seenByScan_of_answers {client : Client} {settings : ScannerSettings} {sandbox : String}
    {earlier : List Call} {result : CommandResult} {stream : Stream}
    (hlisting : commandOutcome client earlier sandbox (listingCommand settings)
      settings.treeTimeoutMs = .ok result)
    (hreading : readingOutcome client settings sandbox
      (listingRequest settings sandbox ++ earlier) = .ok stream) :
    seenByScan client settings sandbox earlier =
      .ok ((treeOf sandbox result).1, stream) := by
  rw [seenByScan, listingOutcome, hlisting, hreading]
  rfl

/-- A failed listing that printed nothing gives no tree. -/
lemma treeOf_of_silent {result : CommandResult} (sandbox : String)
    (hfailed : result.isSuccess = false) (hsilent : result.stdout = "") :
    (treeOf sandbox result).1 = none := by
  rw [treeOf, hfailed, hsilent]
  rfl

/-- A failed listing that printed something gives a tree like any other. -/
lemma treeOf_of_printed {result : CommandResult} (sandbox : String)
    (hprinted : result.stdout ≠ "") :
    (treeOf sandbox result).1 = some (FileTree.ofListing result.stdout) := by
  have hempty : result.stdout.isEmpty = false := by
    rw [Bool.eq_false_iff]
    exact fun h => hprinted (String.isEmpty_iff.1 h)
  rw [treeOf, hempty, Bool.and_false]
  rfl

/-- A listing that failed and names no file, in a hybrid run whose files were read. -/
structure IsBrokenListing (client : Client) (settings : Settings) (sandbox : String)
    (earlier : List Call) (result : CommandResult) (stream : Stream) : Prop where
  listed : commandOutcome client earlier sandbox (listingCommand settings.scanner)
    settings.scanner.treeTimeoutMs = .ok result
  failed : result.isSuccess = false
  blank : ∀ line ∈ textLines result.stdout.toList, AllBlank line
  scanned : readingOutcome client settings.scanner sandbox
    (listingRequest settings.scanner sandbox ++ earlier) = .ok stream

section

variable {client : Client} {settings : Settings} {files : List MemoryFile} {sandbox : String}
  {s : Session τ} {result : CommandResult} {stream : Stream} {texts : String → Option String}
  {report : Report}
  (hbroken : IsBrokenListing client settings sandbox
    (requestsBeforeScan settings.compiler sandbox ++ s.journal) result stream)
  (hreads : HoldsTexts client sandbox texts)
  (hreport : ((project ⟨some client, settings⟩ files sandbox).runIn s).1 = .ok report)
  (hmode : report.mode = .hybrid)

include hbroken hreads hreport hmode

/-- Where a broken listing printed nothing, candidates are looked for by reading. -/
lemma unreadable_of_silent_listing (hsilent : result.stdout = "") {d : Diagnostic}
    {candidates : List String} {path : String} (hd : d ∈ report.imports)
    (hshows : ShowsCandidates candidates d) (hpath : path ∈ candidates) : texts path = none := by
  have hseen := seenByScan_of_answers hbroken.listed hbroken.scanned
  rw [treeOf_of_silent sandbox hbroken.failed hsilent] at hseen
  rw [imports_of_hybrid hreads hseen hreport hmode] at hd
  obtain ⟨file, -, hfile⟩ := List.mem_flatMap.1 hd
  exact Option.isNone_iff_eq_none.1
    (Option.isSome_eq_false_iff.1 (not_seen_of_mem_contribution hfile hshows hpath))

/-- Where a broken listing printed blanks, whatever is looked up is reported. -/
lemma reported_of_printed_listing (hprinted : result.stdout ≠ "") {manifest : Manifest}
    (hloads : ((Manifest.load client settings.resolver.manifestPath sandbox).runIn s).1 =
      .ok manifest)
    {file : ScannedFile} (hfile : file ∈ stream.files) {found : Find Import.Declaration}
    (hfound : found ∈ Import.declarations file.content)
    (hchecked : IsChecked (Analyser.resolver ⟨some client, settings⟩) found.content.specifier) :
    ∃ d ∈ report.imports, Reports file.path .high found d ∧
      ShowsCandidates
        (candidateSequence manifest found.content.specifier file.path (some sandbox)) d := by
  have hseen := seenByScan_of_answers hbroken.listed hbroken.scanned
  rw [treeOf_of_printed sandbox hprinted] at hseen
  rw [imports_of_hybrid hreads hseen hreport hmode, hloads]
  refine ⟨_, List.mem_flatMap.2 ⟨file, hfile, unresolved_mem_contribution hfound ?_⟩,
    ⟨rfl, rfl, rfl, rfl, rfl, rfl⟩, rfl⟩
  exact ⟨hchecked, fun path _ => FileTree.contains_ofListing_of_blank hbroken.blank path⟩

end

/-- **What becomes of a broken listing.**  Let the listing of a hybrid run fail and name no file,
and let the files of the sandbox be readable and unchanged.  If the listing printed nothing at all,
no reported import has a candidate that can be read.  But if it printed blanks, every import of a
scanned file that is looked up is reported with its whole sequence of candidates, whether they can
be read or not. -/
theorem imports_of_broken_listing (client : Client) (settings : Settings) (files : List MemoryFile)
    (sandbox : String) (s : Session τ) (result : CommandResult) (stream : Stream)
    (texts : String → Option String) (report : Report)
    (hbroken : IsBrokenListing client settings sandbox
      (requestsBeforeScan settings.compiler sandbox ++ s.journal) result stream)
    (hreads : HoldsTexts client sandbox texts)
    (hreport : ((project ⟨some client, settings⟩ files sandbox).runIn s).1 = .ok report)
    (hmode : report.mode = .hybrid) :
    (result.stdout = "" → ∀ d ∈ report.imports, ∀ candidates, ShowsCandidates candidates d →
      ∀ path ∈ candidates, texts path = none) ∧
    (result.stdout ≠ "" → ∀ manifest,
      ((Manifest.load client settings.resolver.manifestPath sandbox).runIn s).1 = .ok manifest →
      ∀ file ∈ stream.files, ∀ found ∈ Import.declarations file.content,
        IsChecked (Analyser.resolver ⟨some client, settings⟩) found.content.specifier →
        ∃ d ∈ report.imports, Reports file.path .high found d ∧
          ShowsCandidates
            (candidateSequence manifest found.content.specifier file.path (some sandbox)) d) := by
  refine ⟨fun hsilent d hd candidates hshows path hpath => ?_,
    fun hprinted manifest hloads file hfile found hfound hchecked => ?_⟩
  · exact unreadable_of_silent_listing hbroken hreads hreport hmode hsilent hd hshows hpath
  · exact reported_of_printed_listing hbroken hreads hreport hmode hprinted hloads hfile hfound
      hchecked

/-- A client of sandboxes with one file that can be read.  Listing files fails after something was
printed, and reading them gives another file, which imports the first one. -/
def failedListingClient (printed : String) : Client where
  execute earlier _ _ _ :=
    match earlier.length with
    | 1 => .response (.result { exitCode := 1, stdout := printed })
    | 2 => .response (.result (.printing
        "___FILE_SEPARATOR___\nsrc/App.tsx\nimport './Header'\n___END_FILE___\n"))
    | _ => .response (.result (.printing ""))
  read _ _ path := if path = "src/Header.tsx" then some (.text "") else none

/-- The file that a client with a failed listing prints. -/
def importingFile : ScannedFile :=
  ⟨"src/App.tsx", "import './Header'\n"⟩

lemma isBrokenListing_failedListingClient {printed : String}
    (h : ∀ line ∈ textLines printed.toList, AllBlank line) :
    IsBrokenListing (failedListingClient printed) {} "box"
      (requestsBeforeScan {} "box" ++ [])
      { exitCode := 1, stdout := printed } { files := [importingFile] } where
  listed := rfl
  failed := rfl
  blank := h
  scanned := by
    have hdecode : Stream.decode? (framingOf {})
        "___FILE_SEPARATOR___\nsrc/App.tsx\nimport './Header'\n___END_FILE___\n" =
          some { files := [importingFile] } := by
      decide +kernel
    change streamOf {} (.printing
      "___FILE_SEPARATOR___\nsrc/App.tsx\nimport './Header'\n___END_FILE___\n") = _
    rw [streamOf, CommandResult.printing]
    simp only [hdecode]
    rfl

lemma holdsTexts_failedListingClient (printed : String) :
    HoldsTexts (failedListingClient printed) "box"
      fun path => if path = "src/Header.tsx" then some "" else none := by
  intro earlier path
  by_cases hpath : path = "src/Header.tsx" <;> simp [failedListingClient, contentOf, hpath]

/-- An analysis of a sandbox with a failed listing is hybrid all the same. -/
lemma exists_hybrid_failedListingClient {printed : String}
    (h : ∀ line ∈ textLines printed.toList, AllBlank line) :
    ∃ report, ((project ⟨some (failedListingClient printed), {}⟩ [] "box").runIn
      (Session.start (0 : Int) 300 300)).1 = .ok report ∧ report.mode = .hybrid := by
  have hbroken := isBrokenListing_failedListingClient h
  exact hybrid_of_seen (s := Session.start (0 : Int) 300 300) []
    (seenByScan_of_answers hbroken.listed hbroken.scanned) rfl rfl

/-- What `./Header` may stand for in a file in `src`. -/
def headerCandidates : List String :=
  ["src/Header.ts", "src/Header.tsx", "src/Header.js", "src/Header.jsx"]

lemma exists_header_import (client : Client) :
    ∃ found ∈ Import.declarations importingFile.content,
      IsChecked (Analyser.resolver ⟨some client, {}⟩) found.content.specifier ∧
        candidateSequence {} found.content.specifier importingFile.path (some "box") =
          headerCandidates := by
  have hheader : ∃ found ∈ Import.declarations importingFile.content,
      found.content.specifier = "./Header" := by
    decide +kernel
  obtain ⟨found, hfound, hspecifier⟩ := hheader
  refine ⟨found, hfound, ?_, ?_⟩
  · rw [hspecifier]
    exact ⟨by decide +kernel, Or.inl (by decide), by decide +kernel⟩
  · rw [hspecifier]
    decide +kernel

lemma allBlank_feed : ∀ line ∈ textLines "\n".toList, AllBlank line := by
  decide

/-- Of two failed listings, one printed a line feed and one nothing.  After the first, an import is
reported that can be read; after the second it is not. -/
theorem imports_of_two_failed_listings :
    (∃ report, ((project ⟨some (failedListingClient "\n"), {}⟩ [] "box").runIn
        (Session.start (0 : Int) 300 300)).1 = .ok report ∧
      ∃ d ∈ report.imports, ShowsCandidates headerCandidates d) ∧
    (∃ report, ((project ⟨some (failedListingClient ""), {}⟩ [] "box").runIn
        (Session.start (0 : Int) 300 300)).1 = .ok report ∧
      ∀ d ∈ report.imports, ¬ ShowsCandidates headerCandidates d) := by
  constructor
  · obtain ⟨report, hreport, hmode⟩ := exists_hybrid_failedListingClient allBlank_feed
    obtain ⟨-, hprinted⟩ := imports_of_broken_listing (failedListingClient "\n") {} [] "box"
      (.start (0 : Int) 300 300) _ _ _ report (isBrokenListing_failedListingClient allBlank_feed)
      (holdsTexts_failedListingClient "\n") hreport hmode
    obtain ⟨found, hfound, hchecked, hsequence⟩ :=
      exists_header_import (failedListingClient "\n")
    obtain ⟨d, hd, -, hshows⟩ := hprinted (by decide) {} rfl importingFile List.mem_cons_self
      found hfound hchecked
    exact ⟨report, hreport, d, hd, hsequence ▸ hshows⟩
  · have hblank : ∀ line ∈ textLines "".toList, AllBlank line := by decide
    obtain ⟨report, hreport, hmode⟩ := exists_hybrid_failedListingClient hblank
    obtain ⟨hsilent, -⟩ := imports_of_broken_listing (failedListingClient "") {} [] "box"
      (.start (0 : Int) 300 300) _ _ _ report (isBrokenListing_failedListingClient hblank)
      (holdsTexts_failedListingClient "") hreport hmode
    refine ⟨report, hreport, fun d hd hshows => ?_⟩
    have hnone := hsilent rfl d hd headerCandidates hshows "src/Header.tsx" (by decide)
    simp at hnone

/-- **A blank listing is taken for an empty project.**  It failed and names no file, and yet there
is a finding about an import of which a candidate can be read. -/
theorem not_forall_broken_listing :
    ¬ ∀ (client : Client) (settings : Settings) (files : List MemoryFile) (sandbox : String)
        (s : Session Int) (result : CommandResult) (stream : Stream)
        (texts : String → Option String) (report : Report),
      IsBrokenListing client settings sandbox
        (requestsBeforeScan settings.compiler sandbox ++ s.journal) result stream →
      HoldsTexts client sandbox texts →
      ((project ⟨some client, settings⟩ files sandbox).runIn s).1 = .ok report →
      report.mode = .hybrid →
      ∀ d ∈ report.imports, ∀ candidates, ShowsCandidates candidates d →
        ∀ path ∈ candidates, texts path = none := by
  intro h
  obtain ⟨report, hreport, hmode⟩ := exists_hybrid_failedListingClient allBlank_feed
  have hbroken := isBrokenListing_failedListingClient allBlank_feed
  have hreads := holdsTexts_failedListingClient "\n"
  obtain ⟨found, hfound, hchecked, hsequence⟩ := exists_header_import (failedListingClient "\n")
  have hloads : ((Manifest.load (failedListingClient "\n") ({} : Settings).resolver.manifestPath
      "box").runIn (.start (0 : Int) 300 300)).1 = .ok {} := rfl
  obtain ⟨d, hd, -, hshows⟩ := reported_of_printed_listing hbroken hreads hreport
    hmode (by decide) hloads (List.mem_cons_self : importingFile ∈ _) hfound hchecked
  rw [hsequence] at hshows
  have hnone := h (failedListingClient "\n") {} [] "box" (.start (0 : Int) 300 300) _ _ _ report
    hbroken hreads hreport hmode d hd headerCandidates hshows "src/Header.tsx" (by decide)
  simp at hnone

end Analysis

end ProjectCheck
