import Mathlib.Data.List.DropRight
import Mathlib.Data.List.Infix
import ProjectCheck.Text.Cut

/-!
# What trimming leaves

Trimming drops the characters of one kind at both ends (`strip`).  The text that is left neither
begins nor ends with such a character, and only they stood around it (`strip_eq_iff`); the same holds
of dropping at one end (`dropEndWhile_eq_iff`).

Blanks around a text do not matter to `trim` (`trim_blank_append`, `trim_append_blank`), and blanks
inside stay (`trim_append_append`).  A trimmed text is part of the text and is trimmed already
(`infix_trim`, `trim_trim`); it is empty exactly for a blank text (`trim_eq_nil_iff`).
-/

namespace ProjectCheck.Text

section Strip

variable {p : Char → Bool} {s t : List Char}

/-! ## Dropping at the end -/

/-- What is left of a text does not end with a character of the kind, and only such characters stood
behind it. -/
lemma dropEndWhile_eq_iff : dropEndWhile p s = t ↔
    (∀ c ∈ t.getLast?, p c = false) ∧ ∃ back, s = t ++ back ∧ ∀ c ∈ back, p c = true := by
  constructor
  · rintro rfl
    refine ⟨fun c hc => ?_, s.rtakeWhile p, ?_, fun _ => List.mem_rtakeWhile_imp⟩
    · obtain ⟨hne, rfl⟩ := List.mem_getLast?_eq_getLast hc
      exact Bool.eq_false_iff.2 (List.rdropWhile_last_not p s hne)
    · exact List.rdropWhile_append_rtakeWhile.symm
  · rintro ⟨hlast, back, rfl, hback⟩
    have hkept : t.rdropWhile p = t := by
      rw [List.rdropWhile_eq_self_iff]
      intro hne
      simp [hlast _ (List.getLast_mem_getLast? hne)]
    rw [dropEndWhile, List.reverse_append, List.dropWhile_append_of_pos]
    · exact hkept
    · exact fun c hc => hback c (List.mem_reverse.1 hc)

/-- More characters of the kind at the end are dropped as well. -/
lemma dropEndWhile_append_of_forall {back : List Char} (h : ∀ c ∈ back, p c = true)
    (s : List Char) : dropEndWhile p (s ++ back) = dropEndWhile p s := by
  obtain ⟨hlast, dropped, hs, hdropped⟩ := dropEndWhile_eq_iff.1 (Eq.refl (dropEndWhile p s))
  refine dropEndWhile_eq_iff.2 ⟨hlast, dropped ++ back, ?_, ?_⟩
  · rw [← List.append_assoc, ← hs]
  · exact List.forall_mem_append.2 ⟨hdropped, h⟩

/-- In front of a text of which something is left, everything stays. -/
lemma dropEndWhile_append_of_ne_nil (h : dropEndWhile p s ≠ []) (front : List Char) :
    dropEndWhile p (front ++ s) = front ++ dropEndWhile p s := by
  obtain ⟨hlast, dropped, hs, hdropped⟩ := dropEndWhile_eq_iff.1 (Eq.refl (dropEndWhile p s))
  refine dropEndWhile_eq_iff.2 ⟨?_, dropped, ?_, hdropped⟩
  · rwa [List.getLast?_append_of_ne_nil _ h]
  · rw [List.append_assoc, ← hs]

/-! ## Dropping at both ends -/

/-- A text without the characters of a kind at both ends. -/
def strip (p : Char → Bool) (s : List Char) : List Char :=
  (s.dropWhile p).rdropWhile p

/-- A text neither begins nor ends with a character of a kind. -/
structure IsBare (p : Char → Bool) (s : List Char) : Prop where
  head : ∀ c ∈ s.head?, p c = false
  last : ∀ c ∈ s.getLast?, p c = false

lemma isBare_strip (p : Char → Bool) (s : List Char) : IsBare p (strip p s) where
  head c hc := by
    -- The first character left is the one at which dropping at the front ends.
    obtain ⟨rest, hrest⟩ : ∃ rest, s.dropWhile p = strip p s ++ rest :=
      (List.rdropWhile_prefix p (s.dropWhile p)).imp fun _ => Eq.symm
    have hhead : c ∈ (s.dropWhile p).head? := by
      rw [hrest]
      exact List.mem_head?_append_of_mem_head? hc
    have hnot := List.head?_dropWhile_not p s
    rw [Option.mem_def.1 hhead] at hnot
    simpa using hnot
  last c hc := by
    obtain ⟨hne, rfl⟩ := List.mem_getLast?_eq_getLast hc
    exact Bool.eq_false_iff.2 (List.rdropWhile_last_not p (s.dropWhile p) hne)

lemma IsBare.dropWhile_eq (h : IsBare p s) : s.dropWhile p = s := by
  cases s with
  | nil => rfl
  | cons c rest => exact List.dropWhile_cons_of_neg (by simp [h.head c rfl])

/-- Where no such character stands at the ends, nothing is dropped. -/
lemma IsBare.strip_eq (h : IsBare p s) : strip p s = s := by
  rw [strip, h.dropWhile_eq, List.rdropWhile_eq_self_iff]
  intro hne
  simp [h.last _ (List.getLast_mem_getLast? hne)]

lemma strip_eq_self_iff : strip p s = s ↔ IsBare p s :=
  ⟨fun h => h ▸ isBare_strip p s, IsBare.strip_eq⟩

lemma strip_append_left {front : List Char} (h : ∀ c ∈ front, p c = true) (s : List Char) :
    strip p (front ++ s) = strip p s := by
  rw [strip, strip, List.dropWhile_append_of_pos h]

lemma strip_append_right {back : List Char} (h : ∀ c ∈ back, p c = true) (s : List Char) :
    strip p (s ++ back) = strip p s := by
  rw [strip, strip, List.dropWhile_append]
  split
  · rename_i hs
    rw [List.isEmpty_iff.1 hs, List.dropWhile_eq_nil_iff.2 h]
  · rw [List.rdropWhile, List.reverse_append, List.dropWhile_append_of_pos, List.rdropWhile]
    exact fun c hc => h c (List.mem_reverse.1 hc)

/-- What is left of a text stood between the characters that are dropped. -/
lemma strip_eq_iff : strip p s = t ↔ IsBare p t ∧ ∃ front back,
    s = front ++ (t ++ back) ∧ (∀ c ∈ front, p c = true) ∧ ∀ c ∈ back, p c = true := by
  constructor
  · rintro rfl
    refine ⟨isBare_strip p s, s.takeWhile p, (s.dropWhile p).rtakeWhile p, ?_,
      fun _ => List.mem_takeWhile_imp, fun _ => List.mem_rtakeWhile_imp⟩
    rw [strip, List.rdropWhile_append_rtakeWhile, List.takeWhile_append_dropWhile]
  · rintro ⟨hbare, front, back, rfl, hfront, hback⟩
    rw [strip_append_left hfront, strip_append_right hback, hbare.strip_eq]

lemma infix_strip (p : Char → Bool) (s : List Char) : strip p s <:+: s :=
  (List.rdropWhile_prefix p _).isInfix.trans (List.dropWhile_suffix p).isInfix

lemma mem_strip_iff {c : Char} (hc : p c = false) :
    c ∈ strip p s ↔ c ∈ s := by
  obtain ⟨-, front, back, hs, hfront, hback⟩ := strip_eq_iff.1 (Eq.refl (strip p s))
  have hnot : ∀ ends : List Char, (∀ d ∈ ends, p d = true) → c ∉ ends := fun ends hends hmem =>
    Bool.eq_false_iff.1 hc (hends c hmem)
  conv_rhs => rw [hs]
  rw [List.mem_append, List.mem_append, or_iff_right (hnot front hfront),
    or_iff_left (hnot back hback)]

end Strip

/-! ## Blanks -/

/-- A text of which every character is blank. -/
def AllBlank (s : List Char) : Prop :=
  ∀ c ∈ s, isBlank c = true

lemma isBlankText_iff {s : List Char} : isBlankText s = true ↔ AllBlank s :=
  List.all_eq_true

-- Only the characters of the text are looked at, not all characters there are.
instance (s : List Char) : Decidable (AllBlank s) :=
  decidable_of_iff _ isBlankText_iff

lemma allBlank_singleton {c : Char} (h : isBlank c = true) : AllBlank [c] := by
  intro d hd
  rwa [List.mem_singleton.1 hd]

/-- Trimming drops the blanks at the front and then those at the end. -/
lemma trim_eq (s : List Char) : trim s = strip isBlank s :=
  rfl

lemma infix_trim (s : List Char) : trim s <:+: s :=
  infix_strip isBlank s

lemma trim_eq_nil_iff {s : List Char} : trim s = [] ↔ AllBlank s := by
  rw [trim_eq, strip, List.rdropWhile_eq_nil_iff]
  constructor
  · intro h c hc
    rw [← List.takeWhile_append_dropWhile (p := isBlank) (l := s), List.mem_append] at hc
    rcases hc with hc | hc
    · exact List.mem_takeWhile_imp hc
    · exact h c hc
  · intro h c hc
    exact h c ((List.dropWhile_suffix isBlank).subset hc)

lemma trim_ne_nil_iff {s : List Char} : trim s ≠ [] ↔ ∃ c ∈ s, isBlank c = false := by
  rw [ne_eq, trim_eq_nil_iff, AllBlank]
  simp

/-! ## Blanks at the front -/

lemma trimStart_blank_append {blanks : List Char} (hblanks : AllBlank blanks) (s : List Char) :
    trimStart (blanks ++ s) = trimStart s :=
  List.dropWhile_append_of_pos hblanks

lemma trimStart_cons {c : Char} (hc : isBlank c = false) (s : List Char) :
    trimStart (c :: s) = c :: s :=
  List.dropWhile_cons_of_neg (by simp [hc])

lemma trimStart_append {blanks : List Char} (hblanks : AllBlank blanks) {c : Char}
    (hc : isBlank c = false) (s : List Char) : trimStart (blanks ++ c :: s) = c :: s := by
  rw [trimStart_blank_append hblanks, trimStart_cons hc]

/-! ## Blanks around a text -/

lemma trim_blank_append {blanks : List Char} (h : AllBlank blanks) (s : List Char) :
    trim (blanks ++ s) = trim s :=
  strip_append_left h s

lemma trim_append_blank {blanks : List Char} (h : AllBlank blanks) (s : List Char) :
    trim (s ++ blanks) = trim s :=
  strip_append_right h s

/-! ## Blanks inside a text -/

lemma dropWhile_append_of_exists {a : List Char} (h : ∃ c ∈ a, isBlank c = false)
    (b : List Char) : (a ++ b).dropWhile isBlank = a.dropWhile isBlank ++ b := by
  rw [List.dropWhile_append, if_neg]
  intro hempty
  obtain ⟨c, hc, hblank⟩ := h
  have hall := List.dropWhile_eq_nil_iff.1 (List.isEmpty_iff.1 hempty)
  rw [hall c hc] at hblank
  contradiction

lemma trim_trim (s : List Char) : trim (trim s) = trim s :=
  (isBare_strip isBlank s).strip_eq

/-- A trimmed text does not begin with a blank. -/
lemma trimStart_eq_self {s : List Char} (h : trim s = s) : trimStart s = s :=
  (strip_eq_self_iff.1 h).dropWhile_eq

end ProjectCheck.Text
