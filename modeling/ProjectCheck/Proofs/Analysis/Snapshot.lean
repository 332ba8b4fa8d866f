import ProjectCheck.Proofs.Analysis.Scanning
import ProjectCheck.Proofs.Cache.Lookup

/-!
# The tree that is remembered of a sandbox

What the last completed scan of a sandbox has left is what the imports of single files are checked
against, however much is done in between that does not concern the sandbox, until the tree expires
(`fileImports_after_scan`).  A scan one of whose commands was broken off leaves no trace there, so an
older tree goes on to be used.
-/

namespace ProjectCheck

open ProjectCheck.Scan

variable {τ : Type} [Sub τ] [LE τ] [DecidableLE τ]

/-- What a session holds under a sandbox in its trees: an entry that has not expired, or none. -/
structure Session.HoldsTree (sandbox : String) (lifetime : τ) (entry : Option (Stored τ FileTree))
    (s : Session τ) : Prop where
  held : s.trees.held sandbox = entry
  ttl_eq : s.trees.ttl = lifetime
  fresh : ∀ stored, entry = some stored → ¬ lifetime ≤ s.now - stored.storedAt

namespace Session.HoldsTree

variable {sandbox : String} {lifetime : τ} {entry : Option (Stored τ FileTree)} {s : Session τ}

lemma isFresh (h : s.HoldsTree sandbox lifetime entry) : s.trees.IsFresh sandbox s.now := by
  intro stored hstored
  rw [Cache.isExpired, h.ttl_eq]
  exact decide_eq_false (h.fresh stored (h.held ▸ hstored))

omit [DecidableLE τ] in
lemma ignoresPast (sandbox : String) (lifetime : τ) (entry : Option (Stored τ FileTree)) :
    Analysis.IgnoresPast (HoldsTree sandbox lifetime entry) :=
  fun _ _ _ h => ⟨h.held, h.ttl_eq, h.fresh⟩

omit [DecidableLE τ] in
/-- What is held stays held when the trees change elsewhere and no time passes. -/
lemma of_trees {t : Session τ} (h : s.HoldsTree sandbox lifetime entry)
    (hheld : t.trees.held sandbox = s.trees.held sandbox) (httl : t.trees.ttl = s.trees.ttl)
    (hnow : t.now = s.now) : t.HoldsTree sandbox lifetime entry :=
  ⟨hheld.trans h.held, httl.trans h.ttl_eq, hnow ▸ h.fresh⟩

/-- Looking up a sandbox whose tree is held finds the tree and changes nothing. -/
lemma get_eq (h : s.HoldsTree sandbox lifetime entry) :
    s.trees.get sandbox s.now = (entry.bind (·.value), s.trees) := by
  rw [Cache.get_eq_of_fresh h.isFresh, h.held]

end Session.HoldsTree

namespace Analysis

variable {client : Client} {settings : Settings}

/-! ## What a file is checked against -/

/-- The findings about the imports of a file, if the trees that are remembered do not count but the
one that is given does; none if looking for them is broken off. -/
def findingsAgainst (a : Analyser) (file : MemoryFile) (sandbox : String) (tree : Option FileTree)
    (s : Session τ) : List Diagnostic :=
  match file.text with
  | none => []
  | some text =>
    match ((MissingImport.find (some a.resolver) file.path text (some sandbox) tree).runIn s).1 with
    | .ok findings => findings
    | .error _ => []

/-- A file is checked against the tree that is remembered of its sandbox and has not expired. -/
lemma fst_runIn_fileImports (file : MemoryFile) (sandbox : String) (s : Session τ) :
    ((fileImports ⟨some client, settings⟩ file (some sandbox)).runIn s).1 =
      .ok (findingsAgainst ⟨some client, settings⟩ file sandbox (s.trees.get sandbox s.now).1
        { s with trees := (s.trees.get sandbox s.now).2 }) := by
  have hlookUp : (rememberedTree sandbox).runIn s = (.ok (s.trees.get sandbox s.now).1,
      { s with trees := (s.trees.get sandbox s.now).2 }) := rfl
  rw [fileImports, Work.runIn_settle_bind, findingsAgainst]
  simp only [findImports]
  rw [Work.runIn_bind_of_ok hlookUp]
  cases file.text with
  | none => rfl
  | some text =>
    dsimp only
    rcases (MissingImport.find _ file.path text (some sandbox) _).runIn _ with ⟨_ | _, t⟩ <;> rfl

/-- An operation does not concern the tree of a sandbox. -/
def Operation.Spares (sandbox : String) : Operation τ → Prop
  | .project _ other => sandbox ≠ other
  | .invalidate other => ∃ name, other = some name ∧ sandbox ≠ name
  | .fileImports .. | .fragment _ | .wait _ => True

variable {lifetime : τ} {entry : Option (Stored τ FileTree)}

lemma holdsTree_rememberTree {sandbox other : String} (h : sandbox ≠ other)
    (tree : Option FileTree) :
    (rememberTree other tree).Keeps (Session.HoldsTree sandbox lifetime entry) := by
  intro s hs
  cases tree with
  | some tree => exact hs.of_trees (Cache.held_put_of_ne h hs.isFresh (some tree)) rfl rfl
  | none => exact hs.of_trees (Cache.held_invalidate_of_ne h s.trees) rfl rfl

/-- What is held under a sandbox stays held through every operation that spares it. -/
theorem holdsTree_after {sandbox : String} {operation : Operation τ} {s : Session τ}
    (hspares : operation.Spares sandbox)
    (htime : ∀ later, operation = .wait later → ∀ stored, entry = some stored →
      ¬ lifetime ≤ later - stored.storedAt)
    (hs : s.HoldsTree sandbox lifetime entry) :
    (operation.after ⟨some client, settings⟩ s).HoldsTree sandbox lifetime entry := by
  have hpast : IgnoresPast (Session.HoldsTree sandbox lifetime entry) :=
    Session.HoldsTree.ignoresPast sandbox lifetime entry
  have hload (other : String) :
      (Manifest.load client settings.resolver.manifestPath other).Keeps
        (Session.HoldsTree sandbox lifetime entry) := by
    intro t ht
    obtain ⟨htrees, hnow⟩ := Manifest.trees_load client settings.resolver.manifestPath other t
    exact ht.of_trees (by rw [htrees]) (by rw [htrees]) hnow
  cases operation with
  | project files other =>
    exact keeps_project hpast (hload other) (holdsTree_rememberTree hspares) files hs
  | fileImports file place =>
    -- looking up a tree may remove one, but only one that has expired
    refine keeps_fileImports hpast hload (fun other t ht => ?_) file place hs
    exact ht.of_trees (Cache.held_get ht.isFresh other) (Cache.ttl_get other t.now t.trees) rfl
  | fragment files => exact keeps_fragment hpast files .fragment hs
  | invalidate other =>
    obtain ⟨name, rfl, hne⟩ := hspares
    exact hs.of_trees (Cache.held_invalidate_of_ne hne s.trees) rfl rfl
  | wait later => exact ⟨hs.held, hs.ttl_eq, htime later rfl⟩

/-- After operations that spare a sandbox, a file is checked against what the sandbox held. -/
lemma fileImports_of_holdsTree {sandbox : String} {s : Session τ} {history : List (Operation τ)}
    (hspares : ∀ operation ∈ history, operation.Spares sandbox)
    (htime : ∀ later, .wait later ∈ history → ∀ stored, entry = some stored →
      ¬ lifetime ≤ later - stored.storedAt)
    (hs : s.HoldsTree sandbox lifetime entry) (file : MemoryFile) :
    ((fileImports ⟨some client, settings⟩ file (some sandbox)).runIn
        (Operation.afterAll ⟨some client, settings⟩ history s)).1 =
      .ok (findingsAgainst ⟨some client, settings⟩ file sandbox (entry.bind (·.value))
        (Operation.afterAll ⟨some client, settings⟩ history s)) := by
  have hlater : (Operation.afterAll ⟨some client, settings⟩ history s).HoldsTree sandbox lifetime
      entry := by
    refine Operation.afterAll_induction hs fun operation hmem t ht => ?_
    refine holdsTree_after (hspares operation hmem) (fun later hwait => ?_) ht
    exact htime later (hwait ▸ hmem)
  rw [fst_runIn_fileImports, hlater.get_eq]

/-- **Files are checked against the last completed scan.**  Let a project analysis of a sandbox be
followed by operations that spare it.  If both commands of its scan were run and there is a tree, the
imports of a file in the sandbox are then checked against exactly that tree, as long as it has not
expired; if the listing failed without output, they are checked without a tree.  But a scan one of
whose commands was broken off leaves all trees as they were. -/
theorem fileImports_after_scan (client : Client) (settings : Settings) (files : List MemoryFile)
    (sandbox : String) (s : Session τ) (history : List (Operation τ)) (file : MemoryFile)
    (hspares : ∀ operation ∈ history, operation.Spares sandbox) :
    let a : Analyser := ⟨some client, settings⟩
    let seen := seenByScan client settings.scanner sandbox
      (requestsBeforeScan settings.compiler sandbox ++ s.journal)
    let scanned := (Operation.project files sandbox).after a s
    let later := Operation.afterAll a history scanned
    (∀ tree stream, seen = .ok (some tree, stream) →
      (∀ time, time = s.now ∨ .wait time ∈ history → ¬ s.trees.ttl ≤ time - s.now) →
      ((fileImports a file (some sandbox)).runIn later).1 =
        .ok (findingsAgainst a file sandbox (some tree) later)) ∧
    (∀ stream, seen = .ok (none, stream) →
      ((fileImports a file (some sandbox)).runIn later).1 =
        .ok (findingsAgainst a file sandbox none later)) ∧
    (∀ why, seen = .error why → scanned.trees = s.trees) := by
  intro a seen scanned later
  have htrees : scanned.trees = treesAfter sandbox s.now seen s.trees :=
    trees_project files sandbox s
  have hnow : scanned.now = s.now := now_project files sandbox s
  refine ⟨fun tree stream hseen htime => ?_, fun stream hseen => ?_, fun why hseen => ?_⟩
  · rw [hseen] at htrees
    replace htrees : scanned.trees = s.trees.put sandbox (some tree) s.now := htrees
    have hholds : scanned.HoldsTree sandbox s.trees.ttl (some ⟨some tree, s.now⟩) := by
      constructor
      case held => rw [htrees, Cache.held_put_self]
      case ttl_eq => rw [htrees, Cache.ttl_put]
      case fresh =>
        rintro stored ⟨⟩
        rw [hnow]
        exact htime s.now (Or.inl rfl)
    refine fileImports_of_holdsTree hspares (fun time hwait stored hstored => ?_) hholds file
    obtain rfl := Option.some.inj hstored
    exact htime time (Or.inr hwait)
  · rw [hseen] at htrees
    replace htrees : scanned.trees = s.trees.invalidate (some sandbox) := htrees
    have hholds : scanned.HoldsTree sandbox s.trees.ttl none := by
      constructor
      case held => rw [htrees, Cache.held_invalidate_self]
      case ttl_eq => rw [htrees, Cache.ttl_invalidate]
      case fresh => simp
    exact fileImports_of_holdsTree hspares (by simp) hholds file
  · rw [htrees, hseen]
    rfl

/-- A client whose second and sixth answers are listings, the first one of which shows a file and the
second one of which does not end in time; all its other commands print nothing. -/
def falteringClient : Client where
  execute earlier _ _ _ :=
    match earlier.length with
    | 1 => .response (.result (.printing "src/b.ts"))
    | 5 => .timeout
    | _ => .response (.result (.printing ""))
  read _ _ _ := none

/-- A client that cannot list files. -/
def unlistedClient : Client where
  execute earlier _ _ _ :=
    match earlier.length with
    | 1 => .response (.result { exitCode := 1 })
    | _ => .response (.result (.printing ""))
  read _ _ _ := none

/-- Another sandbox is analysed and forgotten and time passes, and the tree is still used; where the
listing failed, there is none. -/
theorem fileImports_after_other_sandbox :
    let history : List (Operation Int) :=
      [.project [] "chest", .invalidate (some "chest"), .wait 299]
    let file : MemoryFile := ⟨"src/a.ts", some "import b from './b'"⟩
    let later (client : Client) : Session Int := Operation.afterAll ⟨some client, {}⟩ history
      ((Operation.project [] "box").after ⟨some client, {}⟩ (.start 0 300 300))
    ((fileImports ⟨some falteringClient, {}⟩ file (some "box")).runIn (later falteringClient)).1 =
        .ok (findingsAgainst ⟨some falteringClient, {}⟩ file "box"
          (some (FileTree.ofListing "src/b.ts")) (later falteringClient)) ∧
      ((fileImports ⟨some unlistedClient, {}⟩ file (some "box")).runIn (later unlistedClient)).1 =
        .ok (findingsAgainst ⟨some unlistedClient, {}⟩ file "box" none (later unlistedClient)) := by
  intro history file later
  have hspares : ∀ operation ∈ history, operation.Spares "box" := by
    simp [history, Operation.Spares]
  have htime : ∀ time, time = 0 ∨ .wait time ∈ history → ¬ (300 : Int) ≤ time - 0 := by
    simp only [history, List.mem_cons, List.not_mem_nil, reduceCtorEq, Operation.wait.injEq,
      false_or, or_false]
    rintro time (rfl | rfl) <;> decide
  obtain ⟨htree, -, -⟩ := fileImports_after_scan falteringClient {} [] "box"
    (.start (0 : Int) 300 300) history file hspares
  obtain ⟨-, hnone, -⟩ := fileImports_after_scan unlistedClient {} [] "box"
    (.start (0 : Int) 300 300) history file hspares
  exact ⟨htree _ _ rfl htime, hnone _ rfl⟩

/-- A tree outlives a listing that did not end in time.  The second of two project analyses has such
a listing and a hybrid report, yet an import is then found in the tree of the first one, where a
check without a tree would miss it. -/
theorem tree_outlives_broken_listing :
    let a : Analyser := ⟨some falteringClient, {}⟩
    let first : Session Int := (Operation.project [] "box").after a (.start 0 300 300)
    let second := (Operation.project [] "box").after a first
    let file : MemoryFile := ⟨"src/a.ts", some "import b from './b'"⟩
    listingOutcome falteringClient {} "box" (requestsBeforeScan {} "box" ++ first.journal) =
        .error (Sandbox.timeoutOf "box" (listingCommand {}) 10000) ∧
      ((project a [] "box").runIn first).1.map (·.mode) = .ok .hybrid ∧
      (((fileImports a file (some "box")).runIn second).1.map List.length).toOption = some 0 ∧
      (findingsAgainst a file "box" none second).length = 1 := by
  refine ⟨rfl, rfl, ?_, ?_⟩
  · decide +kernel
  · decide +kernel

end Analysis

end ProjectCheck
