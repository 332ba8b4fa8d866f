import ProjectCheck.Proofs.FileTree.Similar
import ProjectCheck.Proofs.Text.Lines
import ProjectCheck.Proofs.Text.Occurrence
import ProjectCheck.Resolution.Target

/-!
# What a specifier points at

An alias pattern stands for the texts that are spelled like it, with something on one line in the
place of its first star and perhaps a line feed behind it all.  Exactly these specifiers match, and
what stands for the star is never in doubt (`match?_ofText`): a line feed that could be counted to
the tail as well as behind it would move the tail by one place, and then the star would stand for a
line feed, too (`feed_mem_of_append_eq`).

The target of an alias is a path below the base directory.  However many pairs of a dot and a slash
stand in front of the two and however many slashes behind the base, the target is the same, and it
begins with no such pair (`joinBaseUrl_ignores_spelling`).  The slashes go first: what they leave of
a base that was all pairs is a single dot, which adds no more than nothing does
(`baseDirectory_dotSlashes_append`).

The target of a relative specifier is the end of a walk from the directory of the importing file, on
which `..` leaves a directory and leads nowhere from the top (`relativeTarget_eq_walk`).  Counting
the leading `..` once is enough for this, as long as no `..` comes later.
-/

namespace ProjectCheck.Resolution

open ProjectCheck.Text

/-! ## Alias patterns -/

namespace AliasPattern

variable {head tail pattern specifier c d : List Char}

/-- A specifier is spelled like a pattern with `c` in the place of the star, up to a line feed at
its end. -/
structure Fits (head tail specifier c : List Char) : Prop where
  one_line : '\n' ∉ c
  spelled : specifier = head ++ c ++ tail ∨ specifier = head ++ c ++ tail ++ ['\n']

/-! ### Readers -/

lemma between?_eq_some_iff :
    between? head tail specifier = some c ↔ '\n' ∉ c ∧ specifier = head ++ c ++ tail := by
  constructor
  · intro h
    rw [between?] at h
    split at h
    · contradiction
    · rename_i rest hrest
      split at h
      · rename_i hsuffix
        obtain ⟨inside, rfl⟩ := List.isSuffixOf_iff_suffix.1 hsuffix
        have htake : (inside ++ tail).take ((inside ++ tail).length - tail.length) = inside :=
          List.take_left' (by simp)
        simp only [htake] at h
        split at h
        · contradiction
        · rename_i hfeed
          obtain rfl := Option.some.inj h
          refine ⟨by simpa using hfeed, ?_⟩
          rw [afterPrefix?_eq_some hrest, List.append_assoc]
      · contradiction
  · rintro ⟨hfeed, rfl⟩
    have hsuffix : tail.isSuffixOf (c ++ tail) = true :=
      List.isSuffixOf_iff_suffix.2 (List.suffix_append c tail)
    have htake : (c ++ tail).take ((c ++ tail).length - tail.length) = c :=
      List.take_left' (by simp)
    simp only [between?, List.append_assoc, afterPrefix?_append, hsuffix, if_true, htake]
    simp [hfeed]

lemma withoutFinalLineFeed?_eq_some_iff {s : List Char} :
    withoutFinalLineFeed? s = some c ↔ s = c ++ ['\n'] := by
  rcases List.eq_nil_or_concat s with rfl | ⟨front, last, rfl⟩
  · simp [withoutFinalLineFeed?]
  · by_cases hlast : last = '\n'
    · simp [withoutFinalLineFeed?, hlast]
    · simp [withoutFinalLineFeed?, hlast]

lemma ofText_of_notMem (h : '*' ∉ pattern) : ofText pattern = exact pattern := by
  have hcut : cutAt? ['*'] pattern = none := by
    rw [cutAt?_eq_none_iff, List.singleton_infix_iff]
    exact h
  rw [ofText, hcut]

/-- A pattern is cut at its first star. -/
lemma cutAt?_star (h : '*' ∉ head) (tail : List Char) :
    cutAt? ['*'] (head ++ '*' :: tail) = some (head, tail) := by
  rw [cutAt?_eq_some_iff]
  exact ⟨by simp, FirstAtEnd.of_notMem h⟩

/-! ### What the star stands for -/

lemma eq_of_cons_eq_append_singleton {a b : Char} {s : List Char} (h : a :: s = s ++ [b]) :
    a = b := by
  induction s generalizing a with
  | nil => exact (List.cons.inj h).1
  | cons x s ih =>
    obtain ⟨rfl, hrest⟩ := List.cons.inj h
    exact ih hrest

/-- If a tail is still there with a line feed behind it, then it has moved over a line feed. -/
lemma feed_mem_of_append_eq (h : c ++ tail = d ++ tail ++ ['\n']) : '\n' ∈ c := by
  have hlen : c.length = d.length + 1 := by
    have hlen := congrArg List.length h
    simp only [List.length_append, List.length_singleton] at hlen
    omega
  rcases List.eq_nil_or_concat c with rfl | ⟨front, last, rfl⟩
  · simp at hlen
  · have hmoved : front ++ (last :: tail) = d ++ (tail ++ ['\n']) := by simpa using h
    have hfront : front.length = d.length := by simpa using hlen
    rw [eq_of_cons_eq_append_singleton (List.append_inj_right hmoved hfront)]
    simp

/-- **The star stands for one text.** -/
lemma Fits.unique (hc : Fits head tail specifier c) (hd : Fits head tail specifier d) : c = d := by
  rcases hc.spelled with hs | hs <;> rcases hd.spelled with ht | ht
  · exact List.append_cancel_left (List.append_cancel_right (hs.symm.trans ht))
  · have hboth : c ++ tail = d ++ tail ++ ['\n'] := by
      simpa using hs.symm.trans ht
    exact absurd (feed_mem_of_append_eq hboth) hc.one_line
  · have hboth : d ++ tail = c ++ tail ++ ['\n'] := by
      simpa using ht.symm.trans hs
    exact absurd (feed_mem_of_append_eq hboth) hd.one_line
  · exact List.append_cancel_left
      (List.append_cancel_right (List.append_cancel_right (hs.symm.trans ht)))

/-! ### Matching -/

lemma match?_exact_iff {text : List Char} {found : AliasMatch} :
    (exact text).match? specifier = some found ↔
      found = .whole ∧ (specifier = text ∨ specifier = text ++ ['\n']) := by
  simp only [match?, Bool.or_eq_true, beq_iff_eq]
  split
  · rename_i h
    simp [h, eq_comm]
  · rename_i h
    simp [h]

lemma match?_wildcard_iff {found : AliasMatch} :
    (wildcard head tail).match? specifier = some found ↔
      ∃ c, found = .capture c ∧ Fits head tail specifier c := by
  constructor
  · intro h
    simp only [match?] at h
    split at h
    · rename_i inside hinside
      obtain rfl := Option.some.inj h
      obtain ⟨hfeed, hspelled⟩ := between?_eq_some_iff.1 hinside
      exact ⟨inside, rfl, hfeed, Or.inl hspelled⟩
    · obtain ⟨inside, hinside, rfl⟩ := Option.map_eq_some_iff.1 h
      obtain ⟨front, hfront, hbetween⟩ := Option.bind_eq_some_iff.1 hinside
      obtain ⟨hfeed, rfl⟩ := between?_eq_some_iff.1 hbetween
      exact ⟨inside, rfl, hfeed, Or.inr (withoutFinalLineFeed?_eq_some_iff.1 hfront)⟩
  · rintro ⟨c, rfl, hc⟩
    simp only [match?]
    cases hwhole : between? head tail specifier with
    | some inside =>
      -- The specifier as it stands is tried first, and it can leave nothing else for the star.
      obtain ⟨hfeed, hspelled⟩ := between?_eq_some_iff.1 hwhole
      obtain rfl : inside = c := Fits.unique ⟨hfeed, Or.inl hspelled⟩ hc
      rfl
    | none =>
      have hfeed : specifier = head ++ c ++ tail ++ ['\n'] := by
        refine hc.spelled.resolve_left fun hspelled => ?_
        rw [between?_eq_some_iff.2 ⟨hc.one_line, hspelled⟩] at hwhole
        contradiction
      have hbetween : between? head tail (head ++ c ++ tail) = some c :=
        between?_eq_some_iff.2 ⟨hc.one_line, rfl⟩
      rw [withoutFinalLineFeed?_eq_some_iff.2 hfeed, Option.bind_some, hbetween]
      rfl

/-- **What an alias pattern matches.**  A pattern without a star matches itself, perhaps with a line
feed behind it.  Any other pattern matches the texts that are spelled like it with something on one
line in the place of its first star, perhaps with a line feed behind them.  This something is
determined by the text and is what the match gives; the two ends of the pattern do not overlap, and
put back in the place of the star it gives the specifier. -/
theorem match?_ofText (pattern specifier : List Char) :
    ('*' ∉ pattern → ∀ found, (ofText pattern).match? specifier = some found ↔
      found = .whole ∧ (specifier = pattern ∨ specifier = pattern ++ ['\n'])) ∧
    ∀ head tail, '*' ∉ head → pattern = head ++ '*' :: tail →
      (∀ found, (ofText pattern).match? specifier = some found ↔
        ∃ c, found = .capture c ∧ Fits head tail specifier c) ∧
      (∀ c d, Fits head tail specifier c → Fits head tail specifier d → c = d) ∧
      ∀ c, (ofText pattern).match? specifier = some (.capture c) →
        ∃ body, (specifier = body ∨ specifier = body ++ ['\n']) ∧
          head <+: body ∧ tail <:+ body ∧ head.length + tail.length ≤ body.length ∧
          fillStar c pattern = body := by
  constructor
  · intro hstar found
    rw [ofText_of_notMem hstar]
    exact match?_exact_iff
  · rintro head tail hstar rfl
    have hcut := cutAt?_star hstar tail
    have htext : ofText (head ++ '*' :: tail) = wildcard head tail := by rw [ofText, hcut]
    rw [htext]
    refine ⟨fun found => match?_wildcard_iff, fun c d => Fits.unique, fun c hmatch => ?_⟩
    obtain ⟨d, hd, hfits⟩ := match?_wildcard_iff.1 hmatch
    obtain rfl := AliasMatch.capture.inj hd
    refine ⟨head ++ c ++ tail, hfits.spelled, ⟨c ++ tail, by simp⟩, List.suffix_append _ _, ?_, ?_⟩
    · simp only [List.length_append]
      omega
    · rw [fillStar, hcut]

/-- The tail of the pattern stands in the specifier in two places, one of them in front of a line
feed. -/
theorem match?_feeds :
    (ofText "*\n\n".toList).match? "a\n\n\n".toList = some (.capture ['a']) ∧
      ∀ c, Fits [] "\n\n".toList "a\n\n\n".toList c → c = ['a'] := by
  obtain ⟨hmatch, hunique, -⟩ :=
    (match?_ofText "*\n\n".toList "a\n\n\n".toList).2 [] "\n\n".toList (by simp) rfl
  have hfits : Fits [] "\n\n".toList "a\n\n\n".toList ['a'] := ⟨by decide, Or.inr rfl⟩
  exact ⟨(hmatch _).2 ⟨['a'], rfl, hfits⟩, fun c hc => hunique c ['a'] hc hfits⟩

end AliasPattern

/-! ## Below the base directory -/

/-- So many pairs of a dot and a slash. -/
def dotSlashes : ℕ → List Char
  | 0 => []
  | n + 1 => '.' :: '/' :: dotSlashes n

/-- What is left of a path without the pairs of a dot and a slash that it begins with. -/
structure IsLeftOf (rest path : List Char) : Prop where
  spelled : ∃ n, path = dotSlashes n ++ rest
  plain : ¬ ['.', '/'] <+: rest

/-- The directory that a base stands for: the base without the slashes that it ends with, and then
without the pairs that it begins with. -/
def IsDirectoryOf (directory base : List Char) : Prop :=
  ∃ body n, base = body ++ List.replicate n '/' ∧ body.getLast? ≠ some '/' ∧
    IsLeftOf directory body

/-- The directory of a base, as it is found. -/
def baseDirectory (base : List Char) : List Char :=
  Path.dropDotSlashes (dropEndWhile (· == '/') base)

/-- A path below a directory.  Nothing and a single dot are no directories. -/
def below (directory rest : List Char) : List Char :=
  if directory = [] ∨ directory = ['.'] then rest else directory ++ '/' :: rest

section BaseDirectory

variable {base directory path rest s : List Char}

/-! ### Pairs of a dot and a slash -/

lemma dotSlashes_succ_eq (n : ℕ) : dotSlashes (n + 1) = dotSlashes n ++ ['.', '/'] := by
  induction n with
  | zero => rfl
  | succ n ih => exact congrArg ('.' :: '/' :: ·) ih

lemma dropDotSlashes_append (n : ℕ) (s : List Char) :
    Path.dropDotSlashes (dotSlashes n ++ s) = Path.dropDotSlashes s := by
  induction n with
  | zero => rfl
  | succ n ih => exact ih

lemma dropDotSlashes_of_plain (h : ¬ ['.', '/'] <+: s) : Path.dropDotSlashes s = s := by
  rw [Path.dropDotSlashes.eq_def]
  split
  · exact absurd ⟨_, rfl⟩ h
  · rfl

lemma isLeftOf_dropDotSlashes (path : List Char) : IsLeftOf (Path.dropDotSlashes path) path := by
  fun_induction Path.dropDotSlashes path with
  | case1 rest ih =>
    obtain ⟨n, hn⟩ := ih.spelled
    exact ⟨⟨n + 1, congrArg ('.' :: '/' :: ·) hn⟩, ih.plain⟩
  | case2 path hpath =>
    refine ⟨⟨0, rfl⟩, ?_⟩
    rintro ⟨rest, rfl⟩
    exact hpath rest rfl

/-- Every path leaves exactly one rest. -/
lemma isLeftOf_iff : IsLeftOf rest path ↔ rest = Path.dropDotSlashes path := by
  constructor
  · rintro ⟨⟨n, rfl⟩, hplain⟩
    rw [dropDotSlashes_append, dropDotSlashes_of_plain hplain]
  · rintro rfl
    exact isLeftOf_dropDotSlashes path

/-! ### The directory of a base -/

/-- Every base stands for exactly one directory. -/
lemma isDirectoryOf_iff : IsDirectoryOf directory base ↔ directory = baseDirectory base := by
  constructor
  · rintro ⟨body, n, rfl, hlast, hleft⟩
    have hbody : dropEndWhile (· == '/') (body ++ List.replicate n '/') = body := by
      refine dropEndWhile_eq_iff.2 ⟨fun c hc => ?_, List.replicate n '/', rfl, by simp⟩
      rw [beq_eq_false_iff_ne]
      rintro rfl
      exact hlast hc
    rw [baseDirectory, hbody]
    exact isLeftOf_iff.1 hleft
  · rintro rfl
    obtain ⟨hlast, slashes, hbase, hslashes⟩ :=
      dropEndWhile_eq_iff.1 (Eq.refl (dropEndWhile (· == '/') base))
    have hall : slashes = List.replicate slashes.length '/' :=
      List.eq_replicate_of_mem fun c hc => by simpa using hslashes c hc
    refine ⟨_, slashes.length, hall ▸ hbase, fun hslash => ?_, isLeftOf_dropDotSlashes _⟩
    simpa using hlast '/' hslash

lemma baseDirectory_append_slashes (base : List Char) (n : ℕ) :
    baseDirectory (base ++ List.replicate n '/') = baseDirectory base := by
  rw [baseDirectory, dropEndWhile_append_of_forall (by simp), baseDirectory]

/-- Pairs in front of a base do not change its directory, unless there is nothing else: then a dot
is left of them. -/
lemma baseDirectory_dotSlashes_append (n : ℕ) (base : List Char) :
    baseDirectory (dotSlashes n ++ base) = baseDirectory base ∨
      baseDirectory (dotSlashes n ++ base) = ['.'] ∧ baseDirectory base = [] := by
  by_cases hbase : dropEndWhile (· == '/') base = []
  · obtain ⟨-, slashes, hspelled, hslashes⟩ := dropEndWhile_eq_iff.1 hbase
    rw [List.nil_append] at hspelled
    cases n with
    | zero => exact Or.inl rfl
    | succ n =>
      have hnothing : baseDirectory base = [] := by
        rw [baseDirectory, hbase]
        rfl
      refine Or.inr ⟨?_, hnothing⟩
      -- the slash of the last pair is dropped together with those of the base
      have hbody : dropEndWhile (· == '/') (dotSlashes (n + 1) ++ base) = dotSlashes n ++ ['.'] := by
        refine dropEndWhile_eq_iff.2 ⟨by simp, '/' :: base, ?_, ?_⟩
        · rw [dotSlashes_succ_eq]
          simp
        · rw [hspelled]
          exact List.forall_mem_cons.2 ⟨rfl, hslashes⟩
      rw [baseDirectory, hbody, dropDotSlashes_append]
      rfl
  · left
    rw [baseDirectory, dropEndWhile_append_of_ne_nil hbase, dropDotSlashes_append, baseDirectory]

/-! ### Targets -/

/-- A path below a directory begins with a pair only if one of the two does. -/
lemma plain_below (hdirectory : ¬ ['.', '/'] <+: directory) (hrest : ¬ ['.', '/'] <+: rest) :
    ¬ ['.', '/'] <+: below directory rest := by
  rw [below]
  split
  · exact hrest
  next hne =>
    rw [not_or] at hne
    intro hpair
    rcases directory with _ | ⟨c, _ | ⟨d, more⟩⟩
    · exact hne.1 rfl
    · obtain ⟨rfl, -⟩ := List.cons_prefix_cons.1 hpair
      exact hne.2 rfl
    · obtain ⟨rfl, hslash⟩ := List.cons_prefix_cons.1 hpair
      obtain ⟨rfl, -⟩ := List.cons_prefix_cons.1 hslash
      exact hdirectory ⟨more, rfl⟩

lemma joinBaseUrl_none (path : String) :
    joinBaseUrl none path = String.ofList (Path.dropDotSlashes path.toList) :=
  rfl

lemma joinBaseUrl_some (base path : String) :
    joinBaseUrl (some base) path =
      String.ofList (below (baseDirectory base.toList) (Path.dropDotSlashes path.toList)) := by
  rw [joinBaseUrl, below, baseDirectory]
  split
  next hnothing => rw [if_pos (Or.inl hnothing)]
  next hdot => rw [if_pos (Or.inr hdot)]
  next hnothing hdot => rw [if_neg fun h => h.elim hnothing hdot]

/-- A target begins with no pair of a dot and a slash. -/
lemma plain_joinBaseUrl (baseUrl : Option String) (path : String) :
    ¬ ['.', '/'] <+: (joinBaseUrl baseUrl path).toList := by
  have hrest := (isLeftOf_dropDotSlashes path.toList).plain
  cases baseUrl with
  | none =>
    rw [joinBaseUrl_none, String.toList_ofList]
    exact hrest
  | some base =>
    rw [joinBaseUrl_some, String.toList_ofList]
    exact plain_below (isLeftOf_dropDotSlashes _).plain hrest

lemma joinBaseUrl_dotSlashes_path (baseUrl : Option String) (n : ℕ) (path : String) :
    joinBaseUrl baseUrl (String.ofList (dotSlashes n ++ path.toList)) =
      joinBaseUrl baseUrl path := by
  have hrest : Path.dropDotSlashes (String.ofList (dotSlashes n ++ path.toList)).toList =
      Path.dropDotSlashes path.toList := by
    rw [String.toList_ofList, dropDotSlashes_append]
  cases baseUrl with
  | none => rw [joinBaseUrl_none, joinBaseUrl_none, hrest]
  | some base => rw [joinBaseUrl_some, joinBaseUrl_some, hrest]

lemma joinBaseUrl_dotSlashes_base (n : ℕ) (base path : String) :
    joinBaseUrl (some (String.ofList (dotSlashes n ++ base.toList))) path =
      joinBaseUrl (some base) path := by
  rw [joinBaseUrl_some, joinBaseUrl_some, String.toList_ofList]
  rcases baseDirectory_dotSlashes_append n base.toList with hsame | ⟨hdot, hnothing⟩
  · rw [hsame]
  · -- a dot and nothing add the same, namely nothing
    rw [hdot, hnothing, below, below, if_pos (Or.inr rfl), if_pos (Or.inl rfl)]

lemma joinBaseUrl_base_slashes (n : ℕ) (base path : String) :
    joinBaseUrl (some (String.ofList (base.toList ++ List.replicate n '/'))) path =
      joinBaseUrl (some base) path := by
  rw [joinBaseUrl_some, joinBaseUrl_some, String.toList_ofList, baseDirectory_append_slashes]

end BaseDirectory

/-- **A target below a base directory does not depend on how the two are spelled.**  It begins with
no dot and slash, so it is in the tree of some lines exactly if one of them shows it.  Pairs of a dot
and a slash in front of the path or of the base do not change it, and neither do slashes behind the
base.  What is left of the path without such pairs is the target, if there is no base, or nothing or
a single dot is left of it; otherwise it stands behind what is left of the base and a slash. -/
theorem joinBaseUrl_ignores_spelling (baseUrl : Option String) (base path : String) :
    ¬ "./".toList <+: (joinBaseUrl baseUrl path).toList ∧
      (∀ lines, (FileTree.ofLines lines).contains (joinBaseUrl baseUrl path) = true ↔
        ∃ line ∈ lines, trim line ≠ [] ∧ FileTree.Shows line (joinBaseUrl baseUrl path)) ∧
      (∀ n, joinBaseUrl baseUrl (String.ofList (dotSlashes n ++ path.toList)) =
        joinBaseUrl baseUrl path) ∧
      (∀ n, joinBaseUrl (some (String.ofList (dotSlashes n ++ base.toList))) path =
        joinBaseUrl (some base) path) ∧
      (∀ n, joinBaseUrl (some (String.ofList (base.toList ++ List.replicate n '/'))) path =
        joinBaseUrl (some base) path) ∧
      ∃ rest directory,
        (∀ s, IsLeftOf s path.toList ↔ s = rest) ∧
        (∀ s, IsDirectoryOf s base.toList ↔ s = directory) ∧
        joinBaseUrl none path = String.ofList rest ∧
        joinBaseUrl (some base) path =
          String.ofList (if directory = [] ∨ directory = ['.'] then rest
            else directory ++ '/' :: rest) := by
  have hplain : ¬ "./".toList <+: (joinBaseUrl baseUrl path).toList :=
    plain_joinBaseUrl baseUrl path
  refine ⟨hplain, fun lines => ?_, fun n => joinBaseUrl_dotSlashes_path baseUrl n path,
    fun n => joinBaseUrl_dotSlashes_base n base path,
    fun n => joinBaseUrl_base_slashes n base path, ?_⟩
  · rw [FileTree.contains_ofLines_iff, FileTree.IsListed]
    exact exists_congr fun line => and_congr_right fun _ => FileTree.standsFor_iff_shows hplain
  · exact ⟨Path.dropDotSlashes path.toList, baseDirectory base.toList, fun _ => isLeftOf_iff,
      fun _ => isDirectoryOf_iff, joinBaseUrl_none path, joinBaseUrl_some base path⟩

/-- Of this base the slash at the end goes first, and a dot is left. -/
example : joinBaseUrl (some "././") "././src/lib" = "src/lib" := by decide

/-! ## Walks along segments -/

/-- Where one more segment leads from a directory, given by its names with the innermost first. -/
def enter (place : List (List Char)) (segment : List Char) : List (List Char) :=
  if segment = [] ∨ segment = ['.'] then place
  else if segment = ['.', '.'] then place.tail
  else segment :: place

/-- The names that lead to the end of a walk from the top, the outermost first. -/
def walk (segments : List (List Char)) : List (List Char) :=
  (segments.foldl enter []).reverse

/-- The segments that stand for something. -/
def standing (segments : List (List Char)) : List (List Char) :=
  segments.filter fun segment => segment ≠ [] ∧ segment ≠ ['.']

/-- A segment that is the name of a file or a directory. -/
def IsName (segment : List Char) : Prop :=
  segment ≠ [] ∧ segment ≠ ['.'] ∧ segment ≠ ['.', '.']

lemma standing_append (a b : List (List Char)) : standing (a ++ b) = standing a ++ standing b :=
  List.filter_append a b

lemma mem_standing_iff {segment : List Char} {segments : List (List Char)} :
    segment ∈ standing segments ↔ segment ∈ segments ∧ segment ≠ [] ∧ segment ≠ ['.'] := by
  simp [standing]

lemma segments_eq_standing (path : List Char) :
    Path.segments path = standing (pieces '/' path) := by
  refine List.filter_congr fun segment _ => ?_
  rw [Bool.eq_iff_iff]
  simp

/-- Only the segments that stand for something lead anywhere. -/
lemma foldl_enter_standing (segments place : List (List Char)) :
    (standing segments).foldl enter place = segments.foldl enter place := by
  induction segments generalizing place with
  | nil => rfl
  | cons segment segments ih =>
    by_cases h : segment ≠ [] ∧ segment ≠ ['.']
    · rw [standing, List.filter_cons_of_pos (by simpa using h), List.foldl_cons, ← standing, ih,
        List.foldl_cons]
    · have hstays : enter place segment = place := if_pos (by tauto)
      rw [standing, List.filter_cons_of_neg (by simpa using h), ← standing, ih, List.foldl_cons,
        hstays]

lemma foldl_enter_ups {ups : List (List Char)} (h : ∀ s ∈ ups, s = ['.', '.'])
    (place : List (List Char)) : ups.foldl enter place = place.drop ups.length := by
  induction ups generalizing place with
  | nil => rfl
  | cons up ups ih =>
    obtain ⟨rfl, hups⟩ := List.forall_mem_cons.1 h
    rw [List.foldl_cons, ih hups]
    simp [enter, List.drop_tail]

lemma foldl_enter_names {names : List (List Char)} (h : ∀ s ∈ names, IsName s)
    (place : List (List Char)) : names.foldl enter place = names.reverse ++ place := by
  induction names generalizing place with
  | nil => rfl
  | cons name names ih =>
    obtain ⟨⟨hne, hdot, hup⟩, hnames⟩ := List.forall_mem_cons.1 h
    rw [List.foldl_cons, ih hnames]
    simp [enter, hne, hdot, hup]

/-- What a walk leads along are names among its segments. -/
lemma mem_foldl_enter {segment : List Char} {segments place : List (List Char)}
    (h : segment ∈ segments.foldl enter place) :
    segment ∈ place ∨ segment ∈ segments ∧ IsName segment := by
  induction segments generalizing place with
  | nil => exact Or.inl h
  | cons next segments ih =>
    rcases ih h with hplace | ⟨hmem, hname⟩
    · rw [enter] at hplace
      split at hplace
      · exact Or.inl hplace
      · rename_i hstands
        split at hplace
        · exact Or.inl (List.mem_of_mem_tail hplace)
        · rename_i hup
          rcases List.mem_cons.1 hplace with rfl | hplace
          · exact Or.inr ⟨List.mem_cons_self, by tauto, by tauto, hup⟩
          · exact Or.inl hplace
    · exact Or.inr ⟨List.mem_cons_of_mem next hmem, hname⟩

lemma mem_walk {segment : List Char} {segments : List (List Char)} (h : segment ∈ walk segments) :
    segment ∈ segments ∧ IsName segment :=
  (mem_foldl_enter (List.mem_reverse.1 h)).resolve_left List.not_mem_nil

/-- Leaving directories and then entering others drops the former from the end. -/
lemma walk_names {directories ups names : List (List Char)}
    (hdirectories : ∀ s ∈ directories, IsName s) (hups : ∀ s ∈ ups, s = ['.', '.']) (hnames : ∀ s ∈ names, IsName s) :
    walk (directories ++ (ups ++ names)) =
      directories.take (directories.length - ups.length) ++ names := by
  rw [walk, List.foldl_append, List.foldl_append, foldl_enter_names hdirectories,
    foldl_enter_ups hups, foldl_enter_names hnames]
  simp [List.reverse_drop]

/-! ## Relative specifiers -/

/-- The segments of a path in front of the last one, which is the name of the file. -/
def directorySegments (path : String) : List (List Char) :=
  (pieces '/' path.toList).dropLast

/-- All segments `..` of a specifier come before its other segments, of which one at least stands
for something. -/
def ClimbsFirst (specifier : String) : Prop :=
  ∃ climb rest, pieces '/' specifier.toList = climb ++ rest ∧
    (∀ s ∈ climb, s = [] ∨ s = ['.'] ∨ s = ['.', '.']) ∧ ['.', '.'] ∉ rest ∧ ∃ s ∈ rest, IsName s

lemma directoryOf_of_notMem {path : List Char} (h : '/' ∉ path) : directoryOf path = [] := by
  have hall : path.reverse.dropWhile (· != '/') = [] := by
    rw [List.dropWhile_eq_nil_iff]
    exact bne_of_notMem (List.mem_reverse.not.2 h)
  rw [directoryOf, hall]
  rfl

lemma directoryOf_append {name : List Char} (h : '/' ∉ name) (directory : List Char) :
    directoryOf (directory ++ '/' :: name) = directory := by
  have hname := bne_of_notMem (List.mem_reverse.not.2 h)
  have hreverse : (directory ++ '/' :: name).reverse =
      name.reverse ++ '/' :: directory.reverse := by
    simp
  rw [directoryOf, hreverse, List.dropWhile_append_of_pos hname]
  simp

/-- The directory part of a path has the segments in front of the last one. -/
lemma segments_directoryOf (path : String) :
    Path.segments (directoryOf path.toList) = standing (directorySegments path) := by
  by_cases hslash : '/' ∈ path.toList
  · obtain ⟨front, back, hreverse, hfree⟩ :=
      List.eq_append_cons_of_mem (List.mem_reverse.2 hslash)
    have hpath : path.toList = back.reverse ++ '/' :: front.reverse := by
      rw [← List.reverse_reverse path.toList, hreverse]
      simp
    have hname : '/' ∉ front.reverse := fun h => hfree (List.mem_reverse.1 h)
    rw [directorySegments, hpath, directoryOf_append hname, pieces_append_cons,
      pieces_of_not_mem hname, List.dropLast_concat, segments_eq_standing]
  · rw [directorySegments, directoryOf_of_notMem hslash, pieces_of_not_mem hslash]
    rfl

/-- A target is made of what the segments of the directory and of the specifier stand for. -/
lemma relativeTarget_congr {specifier origin specifier' origin' : String}
    (hspecifier : standing (pieces '/' specifier'.toList) = standing (pieces '/' specifier.toList))
    (horigin : standing (directorySegments origin') = standing (directorySegments origin)) :
    relativeTarget specifier' origin' = relativeTarget specifier origin := by
  rw [← segments_eq_standing, ← segments_eq_standing] at hspecifier
  rw [← segments_directoryOf, ← segments_directoryOf] at horigin
  rw [relativeTarget, relativeTarget, hspecifier, horigin]

lemma relativeTarget_of_standing {specifier origin : String} {ups names : List (List Char)}
    (hspecifier : standing (pieces '/' specifier.toList) = ups ++ names)
    (hups : ∀ s ∈ ups, s = ['.', '.']) (hnames : ∀ s ∈ names, IsName s) (hne : names ≠ []) :
    relativeTarget specifier origin =
      String.ofList (joinWith ['/']
        ((standing (directorySegments origin)).take
          ((standing (directorySegments origin)).length - ups.length) ++ names)) := by
  have htake : (ups ++ names).takeWhile (· == ['.', '.']) = ups := by
    rw [List.takeWhile_append_of_pos (by simpa using hups)]
    obtain ⟨name, others, rfl⟩ := List.exists_cons_of_ne_nil hne
    rw [List.takeWhile_cons_of_neg, List.append_nil]
    simpa using (hnames name List.mem_cons_self).2.2
  rw [relativeTarget, segments_directoryOf, segments_eq_standing, hspecifier]
  simp only [htake, List.drop_left]
  split
  · rename_i hkept
    rw [List.isEmpty_iff.1 hkept, List.nil_append]
  · rw [joinWith_append_joinWith _ _ hne]

/-- A specifier that climbs first has its `..` in front of names. -/
lemma ClimbsFirst.exists_standing {specifier : String} (h : ClimbsFirst specifier) :
    ∃ ups names, standing (pieces '/' specifier.toList) = ups ++ names ∧
      (∀ s ∈ ups, s = ['.', '.']) ∧ (∀ s ∈ names, IsName s) ∧ names ≠ [] := by
  obtain ⟨climb, rest, hpieces, hclimb, hrest, name, hmem, hname⟩ := h
  refine ⟨standing climb, standing rest, by rw [hpieces, standing_append], ?_, ?_, ?_⟩
  · intro s hs
    obtain ⟨hs, hne, hdot⟩ := mem_standing_iff.1 hs
    exact ((hclimb s hs).resolve_left hne).resolve_left hdot
  · intro s hs
    obtain ⟨hs, hne, hdot⟩ := mem_standing_iff.1 hs
    exact ⟨hne, hdot, fun hup => hrest (hup ▸ hs)⟩
  · exact List.ne_nil_of_mem (mem_standing_iff.2 ⟨hmem, hname.1, hname.2.1⟩)

/-- **Where a relative specifier leads.**  Its target is the end of the walk along the directory of
the importing file and then along the specifier, if the first holds no `..` and the second climbs
first.  So the target is a plain path: it has no empty segment, no `.` and no `..`, and no slash at
its front; and it stays the same whatever segments that stand for nothing are put in or left out. -/
theorem relativeTarget_eq_walk (specifier origin : String)
    (horigin : ['.', '.'] ∉ directorySegments origin) (hspecifier : ClimbsFirst specifier) :
    (relativeTarget specifier origin).toList =
        joinWith ['/'] (walk (directorySegments origin ++ pieces '/' specifier.toList)) ∧
      (∀ segment ∈ pieces '/' (relativeTarget specifier origin).toList, IsName segment) ∧
      (relativeTarget specifier origin).toList.head? ≠ some '/' ∧
      ∀ specifier' origin' : String,
        standing (pieces '/' specifier'.toList) = standing (pieces '/' specifier.toList) →
        standing (directorySegments origin') = standing (directorySegments origin) →
        relativeTarget specifier' origin' = relativeTarget specifier origin := by
  obtain ⟨ups, names, hstanding, hups, hnames, hne⟩ := hspecifier.exists_standing
  have hdirectories : ∀ s ∈ standing (directorySegments origin), IsName s := by
    intro s hs
    obtain ⟨hs, hs₁, hs₂⟩ := mem_standing_iff.1 hs
    exact ⟨hs₁, hs₂, fun hup => horigin (hup ▸ hs)⟩
  have hwalk : walk (directorySegments origin ++ pieces '/' specifier.toList) =
      (standing (directorySegments origin)).take
        ((standing (directorySegments origin)).length - ups.length) ++ names := by
    rw [← walk_names hdirectories hups hnames, ← hstanding, ← standing_append, walk, walk,
      foldl_enter_standing]
  have htarget : (relativeTarget specifier origin).toList =
      joinWith ['/'] (walk (directorySegments origin ++ pieces '/' specifier.toList)) := by
    rw [relativeTarget_of_standing hstanding hups hnames hne, hwalk, String.toList_ofList]
  have hpieces : pieces '/' (relativeTarget specifier origin).toList =
      walk (directorySegments origin ++ pieces '/' specifier.toList) := by
    rw [htarget, pieces_joinWith_eq (by simp [hwalk, hne]) fun s hs => ?_]
    rcases List.mem_append.1 (mem_walk hs).1 with hs | hs
    · exact not_mem_of_mem_pieces (List.mem_of_mem_dropLast hs)
    · exact not_mem_of_mem_pieces hs
  have hplain : ∀ s ∈ pieces '/' (relativeTarget specifier origin).toList, IsName s := by
    intro s hs
    exact (mem_walk (hpieces ▸ hs)).2
  refine ⟨htarget, hplain, fun hslash => ?_, fun _ _ => relativeTarget_congr⟩
  -- A slash at the front would have an empty segment in front of it.
  obtain ⟨rest, hrest⟩ := List.head?_eq_some_iff.1 hslash
  rw [hrest, pieces_cons_self] at hplain
  exact (hplain [] List.mem_cons_self).1 rfl

/-- A specifier that climbs over the top, with segments that stand for nothing in both paths. -/
theorem relativeTarget_over_top :
    ClimbsFirst "./.././/../../lib//./util.js" ∧
      relativeTarget "./.././/../../lib//./util.js" "src/./ui//button.tsx" = "lib/util.js" := by
  have hclimbs : ClimbsFirst "./.././/../../lib//./util.js" :=
    ⟨pieces '/' "./.././/../..".toList, pieces '/' "lib//./util.js".toList, rfl, by decide,
      by decide, "lib".toList, by decide, by decide, by decide, by decide⟩
  obtain ⟨htarget, -⟩ := relativeTarget_eq_walk "./.././/../../lib//./util.js"
    "src/./ui//button.tsx" (by decide) hclimbs
  exact ⟨hclimbs, String.toList_inj.1 htarget⟩

end ProjectCheck.Resolution
