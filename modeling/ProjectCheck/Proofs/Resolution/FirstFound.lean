import ProjectCheck.Proofs.Manifest.Loading
import ProjectCheck.Proofs.Resolution.Candidates

/-!
# Resolving finds the first candidate that exists

The exact meaning of resolving a specifier.  `seesAt` says whether a sight shows a path to someone
who has made certain requests before; a sight is steady in a session if no further request changes
that.  In a steady session a search among some paths ends at the first that exists, has tried
everything up to it and nothing behind it, and has asked the client for exactly what it tried
(`runIn_findFirst`).  With the sequence of candidates this gives the outcome of `Resolver.resolve`
in all cases, together with the session that it leaves (`resolve_finds_first_candidate`).
-/

namespace ProjectCheck.Resolution

variable {τ : Type}

/-! ## What a sight shows -/

namespace Sight

/-- Whether a path exists, to someone who has made the requests `earlier`. -/
def seesAt (sight : Sight) (earlier : List Call) (path : String) : Bool :=
  match sight with
  | .tree files => files.contains path
  | .sandbox client name => (Sandbox.contentOf (client.read earlier name path)).isSome
  | .blind => false

/-- The requests that looking at some paths takes: one for each path in a sandbox, else none. -/
def requests (sight : Sight) (paths : List String) : List Call :=
  match sight with
  | .tree _ => []
  | .sandbox _ name => paths.map (.read name)
  | .blind => []

/-- No request from this session on changes which of some paths a sight shows. -/
def IsSteadyOn (sight : Sight) (paths : List String) (s : Session τ) : Prop :=
  ∀ calls, ∀ path ∈ paths, sight.seesAt (calls ++ s.journal) path = sight.seesAt s.journal path

/-- No request from this session on changes what a sight shows. -/
def IsSteady (sight : Sight) (s : Session τ) : Prop :=
  ∀ calls path, sight.seesAt (calls ++ s.journal) path = sight.seesAt s.journal path

lemma requests_cons (sight : Sight) (path : String) (paths : List String) :
    sight.requests (path :: paths) = sight.requests [path] ++ sight.requests paths := by
  cases sight <;> rfl

lemma runIn_sees (sight : Sight) (path : String) (s : Session τ) :
    (sight.sees path).runIn s =
      (.ok (sight.seesAt s.journal path),
        { s with journal := sight.requests [path] ++ s.journal }) := by
  cases sight with
  | tree files => rfl
  | blind => rfl
  | sandbox client name =>
    rw [sees, Work.runIn_bind_of_ok (Sandbox.runIn_readContent client name path s)]
    rfl

end Sight

/-! ## Searching -/

/-- The outcome of a search among some paths: the first that exists, having tried all up to it, or
none, having tried all. -/
def firstFound (present : String → Bool) (paths : List String) : Resolution :=
  { target := paths.find? present
    tried := paths.takeWhile (fun path => !present path) ++ (paths.find? present).toList }

lemma firstFound_cons_of_present {present : String → Bool} {path : String} (h : present path = true)
    (rest : List String) :
    firstFound present (path :: rest) = { target := some path, tried := [path] } := by
  simp [firstFound, h]

lemma firstFound_cons_of_absent {present : String → Bool} {path : String}
    (h : present path = false) (rest : List String) :
    firstFound present (path :: rest) =
      { target := (firstFound present rest).target
        tried := path :: (firstFound present rest).tried } := by
  simp [firstFound, h]

/-- Only what exists among the paths counts. -/
lemma firstFound_congr {present present' : String → Bool} {paths : List String}
    (h : ∀ path ∈ paths, present path = present' path) :
    firstFound present paths = firstFound present' paths := by
  induction paths with
  | nil => rfl
  | cons path rest ih =>
    have hrest := ih fun other hother => h other (List.mem_cons_of_mem path hother)
    have hpath := h path List.mem_cons_self
    cases hp : present' path with
    | true =>
      rw [firstFound_cons_of_present (hpath.trans hp), firstFound_cons_of_present hp]
    | false =>
      rw [firstFound_cons_of_absent (hpath.trans hp), firstFound_cons_of_absent hp, hrest]

/-- A search asks for what it tries, in order, and changes nothing else in the session. -/
theorem runIn_findFirst {sight : Sight} {paths : List String} {s : Session τ}
    (hsteady : sight.IsSteadyOn paths s) :
    (sight.findFirst paths).runIn s =
      (.ok (firstFound (sight.seesAt s.journal) paths),
        { s with journal :=
            (sight.requests (firstFound (sight.seesAt s.journal) paths).tried).reverse ++
              s.journal }) := by
  induction paths generalizing s with
  | nil => cases sight <;> rfl
  | cons path rest ih =>
    rw [Sight.findFirst, Work.runIn_bind_of_ok (Sight.runIn_sees sight path s)]
    cases hpath : sight.seesAt s.journal path with
    | true =>
      rw [firstFound_cons_of_present hpath]
      cases sight <;> rfl
    | false =>
      set s' : Session τ := { s with journal := sight.requests [path] ++ s.journal } with hs'
      -- The sight is as steady after the request as before it, and shows the same.
      have hsame : ∀ other ∈ rest, sight.seesAt s'.journal other = sight.seesAt s.journal other :=
        fun other hother => hsteady _ other (List.mem_cons_of_mem path hother)
      have hsteady' : sight.IsSteadyOn rest s' := by
        intro calls other hother
        rw [hsame other hother, hs', ← List.append_assoc]
        exact hsteady _ other (List.mem_cons_of_mem path hother)
      have hrest := ih hsteady'
      rw [firstFound_congr hsame] at hrest
      rw [firstFound_cons_of_absent hpath, Sight.requests_cons]
      simp only [Bool.false_eq_true, if_false]
      rw [Work.runIn_bind_of_ok hrest]
      cases sight <;> simp [hs', Sight.requests, Work.runIn_pure]

variable [Sub τ] [LE τ] [DecidableLE τ]

section

variable {r : Resolver} {specifier origin : String} {sandbox : Option String}
  {tree : Option FileTree} {s s₁ : Session τ}

/-- A module of the platform stands for itself. -/
lemma runIn_resolve_of_platform (h : Import.isPlatformModule specifier = true) :
    (r.resolve specifier origin sandbox tree).runIn s =
      (.ok { target := some specifier }, s) := by
  rw [Resolver.resolve, if_pos h]
  rfl

/-- A specifier that is neither relative nor an alias stands for nothing. -/
lemma runIn_resolve_of_foreign (hplatform : Import.isPlatformModule specifier = false)
    (h : r.isLocal specifier = false) :
    (r.resolve specifier origin sandbox tree).runIn s = (.ok { target := none }, s) := by
  rw [Resolver.resolve, hplatform, h]
  rfl

/-- Any other specifier is looked for among the candidates, once the manifest is loaded. -/
lemma runIn_resolve_of_local (hplatform : Import.isPlatformModule specifier = false)
    (h : r.isLocal specifier = true) :
    (r.resolve specifier origin sandbox tree).runIn s =
      (Manifest.of r.client r.manifestPath sandbox >>= fun manifest =>
        (Sight.of r.client sandbox tree).findFirst (candidates manifest specifier origin)).runIn
          s := by
  rw [Resolver.resolve, hplatform, h]
  rfl

/-- With the manifest that counts, the resolver looks at the whole sequence of candidates. -/
lemma candidates_of_loaded {manifest : Manifest}
    (h : (Manifest.of r.client r.manifestPath sandbox).runIn s = (.ok manifest, s₁)) :
    candidates manifest specifier origin =
      candidateSequence manifest specifier origin sandbox := by
  rcases sandbox with _ | name
  · have hmanifest : manifest = {} := by
      have hrun : (Manifest.of r.client r.manifestPath none).runIn s = (.ok {}, s) := rfl
      rw [hrun, Prod.mk.injEq, Except.ok.injEq] at h
      exact h.1.symm
    rw [hmanifest, candidates_empty]
  · exact candidates_eq_candidateSequence manifest specifier origin name

/-- Loading the manifest keeps a sight steady and what it shows. -/
lemma Sight.IsSteady.of_loaded {sight : Sight} {outcome : Except Interruption Manifest}
    (hsteady : sight.IsSteady s)
    (h : (Manifest.of r.client r.manifestPath sandbox).runIn s = (outcome, s₁)) :
    sight.IsSteady s₁ ∧ sight.seesAt s₁.journal = sight.seesAt s.journal := by
  obtain ⟨calls, hcalls⟩ : ∃ calls, s₁.journal = calls ++ s.journal := by
    have hjournal := Manifest.journal_of r.client r.manifestPath sandbox s
    rw [h] at hjournal
    rcases hjournal with hsame | ⟨name, -, hread⟩
    · exact ⟨[], hsame⟩
    · exact ⟨[_], hread⟩
  have hsees : sight.seesAt s₁.journal = sight.seesAt s.journal := by
    funext path
    rw [hcalls]
    exact hsteady calls path
  refine ⟨fun more path => ?_, hsees⟩
  rw [hsees, hcalls, ← List.append_assoc]
  exact hsteady (more ++ calls) path

end

/-- **The exact meaning of resolving.**  A module of the platform stands for itself, and any other
specifier that is neither relative nor an alias stands for nothing; neither takes a request.  For
all others the manifest is loaded, which takes one request at most.  If that is broken off, so is
resolving.  Else, in a session in which no request changes what exists, the answer is the first
candidate that exists; what was tried is the sequence of candidates up to that one, or all of it if
none exists; and what was tried is exactly what was asked for, one request after the other, where a
client answers, while nothing is asked for where a tree does or nobody can. -/
theorem resolve_finds_first_candidate (r : Resolver) (specifier origin : String)
    (sandbox : Option String) (tree : Option FileTree) (s : Session τ)
    (hsteady : (Sight.of r.client sandbox tree).IsSteady s) :
    (Import.isPlatformModule specifier = true →
      (r.resolve specifier origin sandbox tree).runIn s =
        (.ok { target := some specifier, tried := [] }, s)) ∧
    (Import.isPlatformModule specifier = false → ¬ IsRelativePath specifier →
      ¬ r.aliasLead.toList <+: specifier.toList →
      (r.resolve specifier origin sandbox tree).runIn s =
        (.ok { target := none, tried := [] }, s)) ∧
    (Import.isPlatformModule specifier = false →
      IsRelativePath specifier ∨ r.aliasLead.toList <+: specifier.toList →
      ∀ outcome s₁, (Manifest.of r.client r.manifestPath sandbox).runIn s = (outcome, s₁) →
        (s₁.journal = s.journal ∨
          ∃ name, sandbox = some name ∧ s₁.journal = .read name r.manifestPath :: s.journal) ∧
        match outcome with
        | .error why =>
          (r.resolve specifier origin sandbox tree).runIn s = (.error why, s₁)
        | .ok manifest =>
          let sight := Sight.of r.client sandbox tree
          let sequence := candidateSequence manifest specifier origin sandbox
          let first := sequence.find? (sight.seesAt s.journal)
          let tried :=
            sequence.takeWhile (fun path => !sight.seesAt s.journal path) ++ first.toList
          (r.resolve specifier origin sandbox tree).runIn s =
            (.ok { target := first, tried },
              { s₁ with journal := (sight.requests tried).reverse ++ s₁.journal })) := by
  refine ⟨runIn_resolve_of_platform, fun hplatform hrelative halias => ?_,
    fun hplatform hlocal outcome s₁ hload => ⟨?_, ?_⟩⟩
  · refine runIn_resolve_of_foreign hplatform ?_
    rw [Bool.eq_false_iff, ne_eq, isLocal_iff, not_or]
    exact ⟨hrelative, halias⟩
  · simpa only [hload] using Manifest.journal_of r.client r.manifestPath sandbox s
  · have hrun : (r.resolve specifier origin sandbox tree).runIn s = _ :=
      runIn_resolve_of_local hplatform (isLocal_iff.2 hlocal)
    cases outcome with
    | error why => exact hrun.trans (Work.runIn_bind_of_error hload)
    | ok manifest =>
      obtain ⟨hsteady₁, hsees⟩ := hsteady.of_loaded hload
      have hfind : ((Sight.of r.client sandbox tree).findFirst
          (candidateSequence manifest specifier origin sandbox)).runIn s₁ = _ :=
        runIn_findFirst fun calls path _ => hsteady₁ calls path
      rw [hsees] at hfind
      rw [hrun, Work.runIn_bind_of_ok hload, candidates_of_loaded hload, hfind]
      rfl

/-- A client of sandboxes that hold one file, and nothing else. -/
def oneFileClient (file : String) : Client where
  execute _ _ _ _ := .timeout
  read _ _ path := if path = file then some (.text "") else none

/-- A session that remembers a manifest with one alias of one sandbox. -/
def aliasedSession : Session Int :=
  { Session.start 0 300 300 with
    manifests :=
      (Cache.empty 300).put "box" (some { aliases := [("@/*", ["src/*"])] }) 0 }

/-- An alias target that is a directory is found as its index file, after all source files of its
name were asked for. -/
theorem resolve_finds_index_file :
    let client := oneFileClient "src/lib/index.ts"
    let tried :=
      ["src/lib.ts", "src/lib.tsx", "src/lib.js", "src/lib.jsx", "src/lib/index.ts"]
    (Sight.of (some client) (some "box") none).IsSteady aliasedSession ∧
      (Resolver.resolve { client := some client } "@/lib" "src/App.tsx" (some "box")
          none).runIn aliasedSession =
        (.ok { target := some "src/lib/index.ts", tried },
          { aliasedSession with journal := (tried.map (Call.read "box")).reverse }) := by
  intro client tried
  have hsteady : (Sight.of (some client) (some "box") none).IsSteady aliasedSession :=
    fun _ _ => rfl
  refine ⟨hsteady, ?_⟩
  have hresolve := (resolve_finds_first_candidate { client := some client } "@/lib" "src/App.tsx"
    (some "box") none aliasedSession hsteady).2.2 (by decide) (by decide)
    (.ok { aliases := [("@/*", ["src/*"])] }) aliasedSession rfl
  exact hresolve.2

end ProjectCheck.Resolution
