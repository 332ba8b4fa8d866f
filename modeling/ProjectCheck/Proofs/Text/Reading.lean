import ProjectCheck.Proofs.Text.Occurrence
import ProjectCheck.Proofs.Text.Trimming
import ProjectCheck.Text.Place

/-!
# Readers and what they find

What the small readers make of the front of a text that is put together from known parts: a word
ends where no word character follows (`takeWord?_append`), blanks end where no blank follows
(`dropBlanks?_append`), and no blank is a word character (`isWordChar_of_isBlank`).

A test succeeds somewhere in a text if it does at some cut of it (`somewhere_iff`).  A search goes
on over a text in which the reader reads nothing at any place (`findsAfter_append`), and finds what
the reader reads (`findsAfter_of_read`).
-/

namespace ProjectCheck.Text

/-! ## Blanks and words -/

/-- A character lies in one of two tables only, if their ranges are apart. -/
lemma covers_eq_false_of_apart {ranges others : CodeRanges}
    (hapart : ranges.all (fun r => others.all fun s => r.2 < s.1 || s.2 < r.1) = true) {c : Char}
    (h : ranges.covers c = true) : others.covers c = false := by
  obtain ⟨r, hr, hin⟩ := List.any_eq_true.1 h
  rw [CodeRanges.covers, List.any_eq_false]
  intro s hs
  have hrs := List.all_eq_true.1 (List.all_eq_true.1 hapart r hr) s hs
  simp only [Bool.and_eq_true, Bool.or_eq_true, decide_eq_true_eq] at hin hrs ⊢
  omega

/-- The word characters of ASCII. -/
def narrowWordRanges : CodeRanges :=
  [(48, 57), (65, 90), (95, 95), (97, 122)]

lemma isAlphanum_or_underscore_eq (c : Char) :
    (c.isAlphanum || c == '_') = narrowWordRanges.covers c := by
  have hunderscore : c = '_' ↔ c.toNat = 95 := by
    rw [← Char.toNat_inj]
    rfl
  have hword : c.isAlphanum = (decide ('A'.val ≤ c.val ∧ c.val ≤ 'Z'.val) ||
      (decide ('a'.val ≤ c.val) && decide (c.val ≤ 'z'.val)) ||
        (decide ('0'.val ≤ c.val) && decide (c.val ≤ '9'.val))) := rfl
  rw [Bool.eq_iff_iff, hword]
  simp [narrowWordRanges, CodeRanges.covers, UInt32.le_iff_toNat_le, hunderscore]
  omega

/-- No blank is a word character. -/
lemma isWordChar_of_isBlank {c : Char} (h : isBlank c = true) : isWordChar c = false := by
  have hnarrow : narrowWordRanges.covers c = false :=
    covers_eq_false_of_apart (by decide +kernel) h
  have hwide : wideWordRanges.covers c = false :=
    covers_eq_false_of_apart (by decide +kernel) h
  rw [isWordChar, isAlphanum_or_underscore_eq, hnarrow, hwide, ite_self]

lemma isBlank_of_isWordChar {c : Char} (h : isWordChar c = true) : isBlank c = false := by
  by_contra hblank
  rw [isWordChar_of_isBlank (by simpa using hblank)] at h
  contradiction

/-! ## Readers -/

lemma takeWhile_append_of_stops {p : Char → Bool} {run s : List Char}
    (hrun : ∀ c ∈ run, p c = true) (hstop : ∀ c ∈ s.head?, p c = false) :
    (run ++ s).takeWhile p = run := by
  rw [List.takeWhile_append_of_pos hrun]
  cases s with
  | nil => exact List.append_nil run
  | cons c s => rw [List.takeWhile_cons_of_neg (by simp [hstop c rfl]), List.append_nil]

lemma dropWhile_append_of_stops {p : Char → Bool} {run s : List Char}
    (hrun : ∀ c ∈ run, p c = true) (hstop : ∀ c ∈ s.head?, p c = false) :
    (run ++ s).dropWhile p = s := by
  rw [List.dropWhile_append_of_pos hrun]
  cases s with
  | nil => rfl
  | cons c s => exact List.dropWhile_cons_of_neg (by simp [hstop c rfl])

lemma dropBlanks?_append {blanks : List Char} (hblanks : AllBlank blanks) (hne : blanks ≠ [])
    (s : List Char) : dropBlanks? (blanks ++ s) = some (trimStart s) := by
  cases blanks with
  | nil => contradiction
  | cons b blanks =>
    rw [List.cons_append, dropBlanks?, if_pos (hblanks b List.mem_cons_self),
      trimStart_blank_append fun d hd => hblanks d (List.mem_cons_of_mem b hd)]

lemma dropBlanks?_cons {c : Char} (hc : isBlank c = false) (s : List Char) :
    dropBlanks? (c :: s) = none := by
  rw [dropBlanks?, if_neg (by simp [hc])]

/-- What is dropped are the blanks at the front, one or more. -/
lemma dropBlanks?_eq_some {s rest : List Char} (h : dropBlanks? s = some rest) :
    ∃ blanks, AllBlank blanks ∧ blanks ≠ [] ∧ s = blanks ++ rest := by
  cases s with
  | nil => simp [dropBlanks?] at h
  | cons c s =>
    by_cases hc : isBlank c = true
    · rw [dropBlanks?, if_pos hc, Option.some.injEq] at h
      refine ⟨c :: s.takeWhile isBlank, ?_, by simp, ?_⟩
      · intro d hd
        rcases List.mem_cons.1 hd with rfl | hd
        · exact hc
        · exact List.mem_takeWhile_imp hd
      · rw [← h, trimStart, List.cons_append, List.takeWhile_append_dropWhile]
    · rw [dropBlanks?_cons (by simpa using hc)] at h
      contradiction

/-- Behind the blanks that are dropped no other blank is left. -/
lemma isBlank_of_dropBlanks? {s rest : List Char} (h : dropBlanks? s = some rest) :
    ∀ c ∈ rest.head?, isBlank c = false := by
  cases s with
  | nil => simp [dropBlanks?] at h
  | cons c s =>
    rw [dropBlanks?] at h
    split at h
    · obtain rfl := Option.some.inj h
      intro d hd
      have hstop := List.head?_dropWhile_not isBlank s
      rw [trimStart] at hd
      rw [hd] at hstop
      simpa using hstop
    · contradiction

lemma takeWord?_append {word s : List Char} (hword : ∀ c ∈ word, isWordChar c = true)
    (hne : word ≠ []) (hend : endsWord s = true) : takeWord? (word ++ s) = some (word, s) := by
  have hstop : ∀ c ∈ s.head?, isWordChar c = false := by
    cases s with
    | nil => simp
    | cons c s => simpa [endsWord, isWordSide] using hend
  rw [takeWord?, takeWhile_append_of_stops hword hstop, dropWhile_append_of_stops hword hstop]
  cases word with
  | nil => exact absurd rfl hne
  | cons c word => rfl

lemma takeWord?_cons {c : Char} (hc : isWordChar c = false) (s : List Char) :
    takeWord? (c :: s) = none := by
  rw [takeWord?, List.takeWhile_cons_of_neg (by simp [hc])]

lemma endsWord_cons {c : Char} (hc : isWordChar c = false) (s : List Char) :
    endsWord (c :: s) = true := by
  simp [endsWord, isWordSide, hc]

/-- A word ends in front of blanks. -/
lemma endsWord_append {blanks : List Char} (hblanks : AllBlank blanks) {s : List Char}
    (hend : endsWord s = true) : endsWord (blanks ++ s) = true := by
  cases blanks with
  | nil => exact hend
  | cons b blanks =>
    exact endsWord_cons (isWordChar_of_isBlank (hblanks b List.mem_cons_self)) _

/-! ## Readers in front of one more blank -/

section

variable {c : Char}

lemma afterOneOf?_concat {words : List String} (hc : ∀ word ∈ words, c ∉ word.toList)
    (s : List Char) : afterOneOf? words (s ++ [c]) =
      (afterOneOf? words s).map fun found => (found.1, found.2 ++ [c]) := by
  simp only [afterOneOf?] at *
  induction words with
  | nil => rfl
  | cons word words ih =>
    obtain ⟨hword, hwords⟩ := List.forall_mem_cons.1 hc
    rw [List.findSome?_cons, List.findSome?_cons, afterPrefix?_concat hword, ih hwords]
    cases afterPrefix? word.toList s <;> rfl

lemma trimStart_concat_of_allBlank {s : List Char} (hs : AllBlank s) (hc : isBlank c = true) :
    trimStart (s ++ [c]) = [] := by
  rw [trimStart_blank_append hs]
  exact List.dropWhile_eq_nil_iff.2 (allBlank_singleton hc)

/-- Where blanks are dropped, a blank at the end is dropped with them or left over. -/
lemma dropBlanks?_concat_cases (hc : isBlank c = true) (s : List Char) :
    (∀ rest ∈ dropBlanks? s, rest = []) ∧ dropBlanks? (s ++ [c]) = some [] ∨
      dropBlanks? (s ++ [c]) = (dropBlanks? s).map (· ++ [c]) := by
  cases s with
  | nil => exact Or.inl ⟨by simp [dropBlanks?], by simp [dropBlanks?, hc, trimStart]⟩
  | cons d s =>
    rw [List.cons_append, dropBlanks?, dropBlanks?]
    by_cases hd : isBlank d = true
    · rw [if_pos hd, if_pos hd]
      by_cases hs : AllBlank s
      · refine Or.inl ⟨fun rest hrest => ?_, congrArg some (trimStart_concat_of_allBlank hs hc)⟩
        rw [← Option.some.inj hrest]
        exact List.dropWhile_eq_nil_iff.2 hs
      · have hkept : ∃ e ∈ s, isBlank e = false := by
          rwa [← trim_ne_nil_iff, ne_eq, trim_eq_nil_iff]
        exact Or.inr (congrArg some (dropWhile_append_of_exists hkept [c]))
    · rw [if_neg hd, if_neg hd]
      exact Or.inr rfl

end

/-! ## Tests at places -/

/-- A test that one more character changes at no place, and that fails behind it, succeeds somewhere
or not whether or not the character is there. -/
lemma somewhere_concat {test : Option Char → List Char → Bool} {c : Char}
    (hplace : ∀ before s, test before (s ++ [c]) = test before s) (hend : test (some c) [] = false)
    (s : List Char) : somewhere test (s ++ [c]) = somewhere test s := by
  have hafter : ∀ before, somewhereAfter test before (s ++ [c]) = somewhereAfter test before s := by
    induction s with
    | nil =>
      intro before
      have hlast := hplace before []
      rw [List.nil_append] at hlast ⊢
      rw [somewhereAfter, somewhereAfter, somewhereAfter, hend, Bool.or_false, hlast]
    | cons d s ih =>
      intro before
      rw [List.cons_append, somewhereAfter, somewhereAfter, ih (some d), ← List.cons_append, hplace]
  exact hafter none

lemma somewhereAfter_iff {test : Option Char → List Char → Bool} {before : Option Char}
    {s : List Char} :
    somewhereAfter test before s = true ↔
      ∃ a b, s = a ++ b ∧ test (a.getLast?.or before) b = true := by
  induction s generalizing before with
  | nil =>
    rw [somewhereAfter]
    constructor
    · intro h
      exact ⟨[], [], rfl, h⟩
    · rintro ⟨a, b, hab, h⟩
      obtain ⟨rfl, rfl⟩ := List.append_eq_nil_iff.1 hab.symm
      exact h
  | cons c s ih =>
    rw [somewhereAfter, Bool.or_eq_true, ih]
    constructor
    · rintro (h | ⟨a, b, rfl, h⟩)
      · exact ⟨[], c :: s, rfl, h⟩
      · refine ⟨c :: a, b, rfl, ?_⟩
        rw [List.getLast?_cons, Option.some_or]
        cases hlast : a.getLast? <;> simpa [hlast] using h
    · rintro ⟨a, b, hab, h⟩
      cases a with
      | nil =>
        rw [List.nil_append] at hab
        exact Or.inl (hab ▸ h)
      | cons d a =>
        obtain ⟨rfl, rfl⟩ := List.cons.inj hab
        refine Or.inr ⟨a, b, rfl, ?_⟩
        rw [List.getLast?_cons, Option.some_or] at h
        cases hlast : a.getLast? <;> simpa [hlast] using h

/-- A test succeeds somewhere if the text can be cut where it does. -/
lemma somewhere_iff {test : Option Char → List Char → Bool} {s : List Char} :
    somewhere test s = true ↔ ∃ a b, s = a ++ b ∧ test a.getLast? b = true := by
  rw [somewhere, somewhereAfter_iff]
  simp only [Option.or_none]

/-! ## Searching -/

variable {α : Type} {reader : Option Char → List Char → Option (α × List Char)}

/-- Where the reader reads nothing at any place of a text, the search goes on behind it. -/
lemma findsAfter_append {passed s : List Char} (before : List Char)
    (h : ∀ a b, passed = a ++ b → b ≠ [] → ∀ last, reader last (b ++ s) = none) :
    findsAfter reader before (passed ++ s) = findsAfter reader (passed.reverse ++ before) s := by
  induction passed generalizing before with
  | nil => rfl
  | cons c passed ih =>
    have hfirst := h [] (c :: passed) rfl (by simp) before.head?
    rw [List.cons_append] at hfirst ⊢
    rw [findsAfter, hfirst, ih (c :: before), List.reverse_cons, List.append_assoc,
      List.singleton_append]
    intro a b hab hb last
    exact h (c :: a) b (by rw [hab, List.cons_append]) hb last

/-- Where the reader reads nothing at any place, nothing is found. -/
lemma findsAfter_eq_nil {s : List Char} (before : List Char)
    (h : ∀ a b, s = a ++ b → b ≠ [] → ∀ last, reader last b = none) :
    findsAfter reader before s = [] := by
  have hskip : findsAfter reader before (s ++ []) = _ :=
    findsAfter_append before fun a b hab hb last => by simpa using h a b hab hb last
  rw [List.append_nil, findsAfter] at hskip
  exact hskip

/-- What the reader reads at the front is found, and the search goes on behind it. -/
lemma findsAfter_of_read {text s : List Char} {content : α} (before : List Char) (hne : text ≠ [])
    (h : ∀ last, reader last (text ++ s) = some (content, s)) :
    findsAfter reader before (text ++ s) =
      ⟨before, text, content⟩ :: findsAfter reader (text.reverse ++ before) s := by
  cases text with
  | nil => contradiction
  | cons c text =>
    have hread := h before.head?
    rw [List.cons_append] at hread ⊢
    have hlen : (text ++ s).length + 1 - s.length = (c :: text).length := by
      rw [List.length_append, List.length_cons]
      omega
    rw [findsAfter, hread]
    dsimp only
    rw [if_pos (by simp), hlen, ← List.cons_append, List.take_left']
    rfl

end ProjectCheck.Text
