import Mathlib.Data.Finset.Card
import Mathlib.Data.List.Sort
import Mathlib.Data.String.Basic
import ProjectCheck.Proofs.FileTree.Listing
import ProjectCheck.Resolution.Resolver

/-!
# What is found in a tree does not depend on its listing

A tree keeps the paths that its lines stand for, strictly ascending, so it is decided by the set of
these paths alone: neither their order in the listing nor their repetitions can be seen
(`ofLines_eq_iff`).  The paths similar to a name are sorted once more, by a rank, their length and
the path itself.  No two paths agree in all three, so this order is strict as well
(`precedes_or_precedes_of_ne`), and the best match of a name is one path and no other
(`similar_cases`).  Hence what is suggested for candidates that are not there is the same for every
listing of the same files (`ofLines_ignores_order`).
-/

namespace ProjectCheck

open ProjectCheck.Text

namespace FileTree

/-! ## The paths of a tree -/

/-- A line stands for a path: it is not blank, and the path is the line without the blanks around it
and then without one leading dot and slash. -/
def StandsFor (line : List Char) (path : String) : Prop :=
  trim line ≠ [] ∧ path = String.ofList (dropLead ['.', '/'] (trim line))

/-- A path is one of those that some lines stand for. -/
def IsListed (lines : List (List Char)) (path : String) : Prop :=
  ∃ line ∈ lines, StandsFor line path

lemma pathOfLine?_eq_some_iff {line : List Char} {path : String} :
    pathOfLine? line = some path ↔ StandsFor line path := by
  by_cases hblank : trim line = []
  · rw [pathOfLine?_of_blank (trim_eq_nil_iff.1 hblank)]
    exact iff_of_false (by simp) fun h => h.1 hblank
  · rw [pathOfLine?_of_trim hblank, Option.some.injEq, eq_comm]
    exact (and_iff_right hblank).symm

lemma mem_paths_ofLines_iff {lines : List (List Char)} {path : String} :
    path ∈ (ofLines lines).paths ↔ IsListed lines path := by
  rw [ofLines, List.mem_mergeSort, List.mem_eraseDups, List.mem_filterMap]
  exact exists_congr fun line => and_congr_right fun _ => pathOfLine?_eq_some_iff

lemma contains_ofLines_iff {lines : List (List Char)} {path : String} :
    (ofLines lines).contains path = true ↔ IsListed lines path := by
  rw [contains, List.contains_iff_mem, mem_paths_ofLines_iff]

/-- A path without a dot and a slash in front is what exactly those lines stand for that show it. -/
lemma standsFor_iff_shows {line : List Char} {path : String} (h : ¬ "./".toList <+: path.toList) :
    StandsFor line path ↔ trim line ≠ [] ∧ Shows line path := by
  refine and_congr_right fun _ => ?_
  have hdropped : path = String.ofList (dropLead ['.', '/'] (trim line)) ↔
      dropLead ['.', '/'] (trim line) = path.toList := by
    rw [← String.toList_inj, String.toList_ofList, eq_comm]
  rw [hdropped, dropLead_eq_iff, Shows]
  constructor
  · rintro (hlead | ⟨hwhole, -⟩)
    · exact Or.inr hlead
    · exact Or.inl hwhole
  · rintro (hwhole | hlead)
    · exact Or.inr ⟨hwhole, hwhole ▸ h⟩
    · exact Or.inl hlead

/-- Without repetitions no element is left twice.  The induction is on the length, since what is
behind an element is filtered before it is gone through. -/
lemma nodup_eraseDups {α : Type} [BEq α] [LawfulBEq α] (items : List α) :
    items.eraseDups.Nodup := by
  induction hlen : items.length using Nat.strong_induction_on generalizing items with
  | _ n ih =>
    cases items with
    | nil => simp
    | cons item rest =>
      have hshorter : (rest.filter fun other => !other == item).length < n := by
        have hfilter := List.length_filter_le (fun other => !other == item) rest
        rw [List.length_cons] at hlen
        omega
      rw [List.eraseDups_cons, List.nodup_cons]
      refine ⟨?_, ih _ hshorter _ rfl⟩
      rw [List.mem_eraseDups, List.mem_filter]
      simp

/-- The paths of a tree are strictly ascending. -/
lemma pairwise_paths_ofLines (lines : List (List Char)) :
    (ofLines lines).paths.Pairwise (· < ·) := by
  have hsorted : (ofLines lines).paths.Pairwise fun a b => decide (a ≤ b) = true := by
    refine List.pairwise_mergeSort (fun a b c hab hbc => ?_) (fun a b => ?_) _
    · rw [decide_eq_true_eq] at hab hbc ⊢
      exact hab.trans hbc
    · rw [Bool.or_eq_true, decide_eq_true_eq, decide_eq_true_eq]
      exact le_total a b
  have hnodup : (ofLines lines).paths.Nodup :=
    (List.mergeSort_perm _ _).nodup_iff.2 (nodup_eraseDups _)
  exact hsorted.imp₂ (fun a b hle hne => lt_of_le_of_ne (of_decide_eq_true hle) hne) hnodup

lemma nodup_paths_ofLines (lines : List (List Char)) : (ofLines lines).paths.Nodup :=
  (pairwise_paths_ofLines lines).imp ne_of_lt

/-- Two trees are equal exactly if their lines stand for the same paths. -/
theorem ofLines_eq_iff {lines others : List (List Char)} :
    ofLines lines = ofLines others ↔ ∀ path, IsListed lines path ↔ IsListed others path := by
  constructor
  · intro h path
    rw [← mem_paths_ofLines_iff, ← mem_paths_ofLines_iff, h]
  · intro h
    have hpaths : (ofLines lines).paths = (ofLines others).paths := by
      refine (pairwise_paths_ofLines lines).eq_of_mem_iff (pairwise_paths_ofLines others)
        fun path => ?_
      rw [mem_paths_ofLines_iff, mem_paths_ofLines_iff, h path]
    exact congrArg FileTree.mk hpaths

/-- A tree is as large as the set of the paths that its lines stand for. -/
lemma size_ofLines {lines : List (List Char)} {files : Finset String}
    (h : ∀ path, path ∈ files ↔ IsListed lines path) : (ofLines lines).size = files.card := by
  have hfiles : (ofLines lines).paths.toFinset = files := by
    ext path
    rw [List.mem_toFinset, mem_paths_ofLines_iff, h path]
  rw [size, ← hfiles, List.toFinset_card_of_nodup (nodup_paths_ofLines lines)]

/-! ## The order of similar paths -/

/-- A path is similar to a name if it holds the name, whatever the case. -/
def IsSimilar (name : List Char) (path : String) : Prop :=
  lower name <:+: lower path.toList

/-- The rank of a path for a name: a file of exactly that name comes first. -/
def rank (name : List Char) (path : String) : Nat :=
  if stem path = lower name then 0 else 1

/-- A path comes before another for a name: by its rank, then by its length, then by itself. -/
def Precedes (name : List Char) (a b : String) : Prop :=
  rank name a < rank name b ∨ rank name a = rank name b ∧
    (a.length < b.length ∨ a.length = b.length ∧ a < b)

lemma precedes_trans {name : List Char} {a b c : String} (hab : Precedes name a b)
    (hbc : Precedes name b c) : Precedes name a c := by
  have hpaths : a < b → b < c → a < c := lt_trans
  grind [Precedes]

/-- **Of two paths one comes before the other.** -/
lemma precedes_or_precedes_of_ne {name : List Char} {a b : String} (h : a ≠ b) :
    Precedes name a b ∨ Precedes name b a := by
  have hpaths : a < b ∨ b < a := lt_or_gt_of_ne h
  grind [Precedes]

/-- A path is as good a match as another exactly if it is the same or comes before it. -/
lemma matchesBetter_iff {name : List Char} {a b : String} :
    matchesBetter (lower name) a b = true ↔ a = b ∨ Precedes name a b := by
  have hpaths : a ≤ b ↔ a = b ∨ a < b := le_iff_eq_or_lt
  grind [matchesBetter, Precedes, rank]

/-! ## Similar paths -/

section

variable {tree : FileTree} {name : List Char} (hname : name ≠ [])

include hname

lemma similar_eq :
    tree.similar name =
      (tree.paths.filter fun path => occursIn (lower name) (lower path.toList)).mergeSort
        (matchesBetter (lower name)) := by
  rw [similar, if_neg (by simpa using hname)]

lemma mem_similar_iff {path : String} :
    path ∈ tree.similar name ↔ path ∈ tree.paths ∧ IsSimilar name path := by
  rw [similar_eq hname, List.mem_mergeSort, List.mem_filter, occursIn, IsSimilar,
    Option.isSome_iff_ne_none, ne_eq, cutAt?_eq_none_iff, not_not]

/-- Where no path stands twice, the similar ones are strictly ascending. -/
lemma pairwise_similar (hpaths : tree.paths.Nodup) :
    (tree.similar name).Pairwise (Precedes name) := by
  rw [similar_eq hname]
  have hsorted (paths : List String) :
      (paths.mergeSort (matchesBetter (lower name))).Pairwise fun a b =>
        matchesBetter (lower name) a b = true := by
    refine List.pairwise_mergeSort (fun a b c hab hbc => ?_) (fun a b => ?_) paths
    · rw [matchesBetter_iff] at hab hbc ⊢
      rcases hab with rfl | hab
      · exact hbc
      · rcases hbc with rfl | hbc
        · exact Or.inr hab
        · exact Or.inr (precedes_trans hab hbc)
    · rw [Bool.or_eq_true, matchesBetter_iff, matchesBetter_iff]
      by_cases heq : a = b
      · exact Or.inl (Or.inl heq)
      · exact (precedes_or_precedes_of_ne heq).imp Or.inr Or.inr
  have hnodup := (List.mergeSort_perm _ (matchesBetter (lower name))).nodup_iff.2
    (hpaths.filter fun path => occursIn (lower name) (lower path.toList))
  exact (hsorted _).imp₂ (fun a b hle hne => (matchesBetter_iff.1 hle).resolve_left hne) hnodup

end

/-- The best match of a name in a tree: it comes before all other similar paths. -/
structure IsBest (tree : FileTree) (name : List Char) (path : String) : Prop where
  mem : path ∈ tree.paths
  similar : IsSimilar name path
  first : ∀ other ∈ tree.paths, IsSimilar name other → other ≠ path → Precedes name path other

/-- The similar paths begin with the best match, if there is one. -/
lemma similar_cases {tree : FileTree} (hpaths : tree.paths.Nodup) (name : List Char) :
    (name ≠ [] ∧ ∃ best rest, tree.similar name = best :: rest ∧ IsBest tree name best) ∨
      (name = [] ∨ ∀ path ∈ tree.paths, ¬ IsSimilar name path) ∧ tree.similar name = [] := by
  by_cases hname : name = []
  · exact Or.inr ⟨Or.inl hname, by rw [similar, hname]; rfl⟩
  cases hsimilar : tree.similar name with
  | nil =>
    refine Or.inr ⟨Or.inr fun path hpath hlike => ?_, rfl⟩
    have hmem := (mem_similar_iff hname).2 ⟨hpath, hlike⟩
    rw [hsimilar] at hmem
    contradiction
  | cons best rest =>
    have hmem (path : String) : path ∈ best :: rest ↔ path ∈ tree.paths ∧ IsSimilar name path :=
      hsimilar ▸ mem_similar_iff hname
    obtain ⟨hbest, hlike⟩ := (hmem best).1 List.mem_cons_self
    refine Or.inl ⟨hname, best, rest, rfl, hbest, hlike, fun other hother hsame hne => ?_⟩
    have hsorted := pairwise_similar hname hpaths
    rw [hsimilar] at hsorted
    have hrest := (List.mem_cons.1 ((hmem other).2 ⟨hother, hsame⟩)).resolve_left hne
    exact List.rel_of_pairwise_cons hsorted hrest

end FileTree

/-! ## Suggestions -/

open FileTree

/-- What is suggested for candidates: the best match for the name of the first one, or else the
first one itself, without its extension. -/
lemma Resolution.suggestion_cases {tree : FileTree} (hpaths : tree.paths.Nodup) (first : String)
    (rest : List String) :
    (baseName first ≠ [] ∧ ∃ best, IsBest tree (baseName first) best ∧
      suggestion (first :: rest) (some tree) =
        String.ofList (Path.dropSourceExtension best.toList)) ∨
    (baseName first = [] ∨ ∀ path ∈ tree.paths, ¬ IsSimilar (baseName first) path) ∧
      suggestion (first :: rest) (some tree) =
        String.ofList (Path.dropSourceExtension first.toList) := by
  rcases similar_cases hpaths (baseName first) with
    ⟨hname, best, others, hsimilar, hbest⟩ | ⟨hnone, hsimilar⟩
  · exact Or.inl ⟨hname, best, hbest, by simp [suggestion, hsimilar]⟩
  · exact Or.inr ⟨hnone, by simp [suggestion, hsimilar]⟩

/-- A path of exactly the name that is looked for does not come behind one that is not. -/
lemma FileTree.Precedes.stem_eq {name : List Char} {a b : String} (h : Precedes name a b)
    (hb : stem b = lower name) : stem a = lower name := by
  have hrank : rank name a ≤ rank name b := by
    rcases h with hlt | ⟨heq, -⟩
    · exact hlt.le
    · exact heq.le
  rw [rank, rank, if_pos hb] at hrank
  by_contra ha
  rw [if_neg ha] at hrank
  omega

/-- **A tree and all that is suggested from it do not depend on the order of the listing.**  The
paths of a tree are strictly ascending, and they are those that a line stands for, each once; the
same paths give the same tree, and the same suggestions.  The paths similar to a name are strictly
ascending by their rank, their length and themselves, so that files of exactly that name come before
all others.  For candidates that are not there the best match for the name of the first one is
suggested, and if there is no match, that candidate itself, in both cases without the extension. -/
theorem FileTree.ofLines_ignores_order (lines : List (List Char)) :
    (ofLines lines).paths.Pairwise (· < ·) ∧
    (∀ files : Finset String, (∀ path, path ∈ files ↔ IsListed lines path) →
      (ofLines lines).size = files.card) ∧
    (∀ path, (ofLines lines).contains path = true ↔ IsListed lines path) ∧
    (∀ others, (∀ path, IsListed lines path ↔ IsListed others path) →
      ofLines lines = ofLines others ∧ ∀ candidates,
        Resolution.suggestion candidates (some (ofLines lines)) =
          Resolution.suggestion candidates (some (ofLines others))) ∧
    (∀ name, name ≠ [] →
      (∀ path, path ∈ (ofLines lines).similar name ↔ IsListed lines path ∧ IsSimilar name path) ∧
      ((ofLines lines).similar name).Pairwise (Precedes name) ∧
      ((ofLines lines).similar name).Pairwise fun a b =>
        stem b = lower name → stem a = lower name) ∧
    Resolution.suggestion [] (some (ofLines lines)) = Resolution.defaultSuggestion ∧
    ∀ first rest, let name := Resolution.baseName first
      (name ≠ [] ∧ ∃ best, IsBest (ofLines lines) name best ∧
        Resolution.suggestion (first :: rest) (some (ofLines lines)) =
          String.ofList (Path.dropSourceExtension best.toList)) ∨
      (name = [] ∨ ∀ path, IsListed lines path → ¬ IsSimilar name path) ∧
        Resolution.suggestion (first :: rest) (some (ofLines lines)) =
          String.ofList (Path.dropSourceExtension first.toList) := by
  have hnodup := nodup_paths_ofLines lines
  refine ⟨pairwise_paths_ofLines lines, fun files => size_ofLines, fun path => contains_ofLines_iff,
    fun others hsame => ?_, fun name hname => ⟨fun path => ?_, ?_, ?_⟩, rfl, fun first rest => ?_⟩
  · have htree : ofLines lines = ofLines others := ofLines_eq_iff.2 hsame
    exact ⟨htree, fun candidates => by rw [htree]⟩
  · rw [mem_similar_iff hname, mem_paths_ofLines_iff]
  · exact pairwise_similar hname hnodup
  · exact (pairwise_similar hname hnodup).imp Precedes.stem_eq
  · have hcases := Resolution.suggestion_cases hnodup first rest
    simp only [mem_paths_ofLines_iff] at hcases
    exact hcases

end ProjectCheck
