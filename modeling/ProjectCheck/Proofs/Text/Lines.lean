import Mathlib.Data.List.Infix
import ProjectCheck.Proofs.Text.Trimming

/-!
# Lines between separators

What `pieces` makes of a text.  It cuts the text as `List.splitOn` does (`pieces_eq_splitOn`), so
the pieces of two texts with a separator between them are those of the one and those of the other
(`pieces_append_cons`).

Where the pieces are trimmed, a carriage return in front of a line feed cannot be seen
(`map_trim_pieces_joinLineEnds`).  This is what makes a page of lines readable whatever blanks stand
around them and however each line ends (`Page.map_trim_pieces_text`).
-/

namespace ProjectCheck.Text

/-! ## Joined texts -/

lemma joinWith_cons (sep first : List Char) (others : List (List Char)) :
    joinWith sep (first :: others) = first ++ others.flatMap (sep ++ ·) := by
  induction others generalizing first with
  | nil => simp [joinWith]
  | cons second others ih =>
    rw [joinWith, List.intercalate_cons_cons, ← joinWith, ih, List.flatMap_cons]
    simp

lemma infix_joinWith_of_mem {sep part : List Char} {parts : List (List Char)} (h : part ∈ parts) :
    part <:+: joinWith sep parts := by
  cases parts with
  | nil => contradiction
  | cons first others =>
    rw [joinWith_cons]
    rcases List.mem_cons.1 h with rfl | h
    · exact (List.prefix_append _ _).isInfix
    · obtain ⟨a, b, rfl⟩ := List.append_of_mem h
      exact ⟨first ++ a.flatMap (sep ++ ·) ++ sep, b.flatMap (sep ++ ·), by simp⟩

/-- Parts that are joined already can be joined to others. -/
lemma joinWith_append_joinWith (sep : List Char) (parts : List (List Char))
    {others : List (List Char)} (hne : others ≠ []) :
    joinWith sep (parts ++ [joinWith sep others]) = joinWith sep (parts ++ others) := by
  obtain ⟨first, rest, rfl⟩ := List.exists_cons_of_ne_nil hne
  cases parts with
  | nil => exact (joinWith_cons sep _ []).trans (List.append_nil _)
  | cons part parts => simp [joinWith_cons]

/-! ## Pieces -/

lemma pieces_ne_nil (sep : Char) (s : List Char) : pieces sep s ≠ [] := by
  cases s with
  | nil => simp [pieces]
  | cons c s =>
    rw [pieces]
    split
    · simp
    · split <;> simp

lemma pieces_cons_self (sep : Char) (s : List Char) :
    pieces sep (sep :: s) = [] :: pieces sep s := by
  simp [pieces]

lemma pieces_cons_of_ne {sep c : Char} (h : c ≠ sep) (s : List Char) :
    pieces sep (c :: s) = (pieces sep s).modifyHead (c :: ·) := by
  rw [pieces, if_neg (by simpa using h)]
  cases hs : pieces sep s with
  | nil => exact absurd hs (pieces_ne_nil sep s)
  | cons piece others => rfl

lemma pieces_eq_splitOn (sep : Char) (s : List Char) : pieces sep s = s.splitOn sep := by
  induction s with
  | nil => rfl
  | cons c s ih =>
    rw [List.splitOn] at ih ⊢
    rw [List.splitOnP_cons_eq_if_modifyHead, ← ih]
    by_cases hc : c = sep
    · rw [if_pos (by simpa using hc), hc, pieces_cons_self]
    · rw [if_neg (by simpa using hc), pieces_cons_of_ne hc]

lemma pieces_append_cons (sep : Char) (a b : List Char) :
    pieces sep (a ++ sep :: b) = pieces sep a ++ pieces sep b := by
  simp only [pieces_eq_splitOn]
  exact List.splitOnP_append_cons a b (beq_self_eq_true sep)

lemma pieces_of_not_mem {sep : Char} {s : List Char} (h : sep ∉ s) : pieces sep s = [s] := by
  rw [pieces_eq_splitOn]
  refine List.splitOnP_eq_singleton fun c hc => beq_false_of_ne ?_
  rintro rfl
  exact h hc

lemma not_mem_of_mem_pieces {sep : Char} {s piece : List Char} (h : piece ∈ pieces sep s) :
    sep ∉ piece := by
  induction s generalizing piece with
  | nil => simp_all [pieces]
  | cons c s ih =>
    by_cases hc : c = sep
    · rw [hc, pieces_cons_self, List.mem_cons] at h
      rcases h with rfl | h
      · simp
      · exact ih h
    · rw [pieces_cons_of_ne hc] at h
      cases hs : pieces sep s with
      | nil => exact absurd hs (pieces_ne_nil sep s)
      | cons first others =>
        rw [hs, List.modifyHead_cons, List.mem_cons] at h
        rcases h with rfl | h
        · simpa [Ne.symm hc] using ih (by simp [hs] : first ∈ _)
        · exact ih (by simp [hs, h])

lemma infix_of_mem_pieces {sep : Char} {s piece : List Char} (h : piece ∈ pieces sep s) :
    piece <:+: s := by
  rw [pieces_eq_splitOn] at h
  have hwhole : piece <:+: joinWith [sep] (s.splitOn sep) := infix_joinWith_of_mem h
  rwa [joinWith, List.intercalate_splitOn] at hwhole

/-- Joined parts are cut where they were joined. -/
lemma pieces_joinWith_eq {sep : Char} {parts : List (List Char)} (hne : parts ≠ [])
    (h : ∀ part ∈ parts, sep ∉ part) : pieces sep (joinWith [sep] parts) = parts := by
  rw [pieces_eq_splitOn, joinWith, List.splitOn_intercalate sep h hne]

/-! ### Separators at the ends -/

section Ends

variable {sep : Char} {seps piece : List Char}

lemma mem_pieces_append_left (hseps : ∀ c ∈ seps, c = sep) (hne : piece ≠ []) (s : List Char) :
    piece ∈ pieces sep (seps ++ s) ↔ piece ∈ pieces sep s := by
  induction seps with
  | nil => rfl
  | cons c seps ih =>
    obtain ⟨rfl, hrest⟩ := List.forall_mem_cons.1 hseps
    rw [List.cons_append, pieces_cons_self, List.mem_cons, or_iff_right hne, ih hrest]

lemma mem_pieces_append_right (hseps : ∀ c ∈ seps, c = sep) (hne : piece ≠ []) (s : List Char) :
    piece ∈ pieces sep (s ++ seps) ↔ piece ∈ pieces sep s := by
  cases seps with
  | nil => rw [List.append_nil]
  | cons c rest =>
    obtain ⟨rfl, hrest⟩ := List.forall_mem_cons.1 hseps
    have hnone : piece ∉ pieces c rest := by
      rw [← List.append_nil rest, mem_pieces_append_left hrest hne]
      exact fun hmem => hne (List.mem_singleton.1 hmem)
    rw [pieces_append_cons, List.mem_append, or_iff_left hnone]

/-- Separators at the ends of a text bound no piece that is not empty. -/
lemma mem_pieces_strip (hne : piece ≠ []) (s : List Char) :
    piece ∈ pieces sep (strip (· == sep) s) ↔ piece ∈ pieces sep s := by
  obtain ⟨-, front, back, hs, hfront, hback⟩ := strip_eq_iff.1 (Eq.refl (strip (· == sep) s))
  conv_rhs => rw [hs]
  rw [mem_pieces_append_left (fun c hc => eq_of_beq (hfront c hc)) hne,
    mem_pieces_append_right (fun c hc => eq_of_beq (hback c hc)) hne]

end Ends

/-! ## Line ends -/

lemma modifyHead_nil_append (parts : List (List Char)) : parts.modifyHead ([] ++ ·) = parts :=
  congrFun List.modifyHead_id parts

/-- A character that is no separator stays with what stands in front of the first piece. -/
lemma modifyHead_pieces_cons {sep c : Char} (h : c ≠ sep) (a s : List Char) :
    (pieces sep (c :: s)).modifyHead (a ++ ·) = (pieces sep s).modifyHead (a ++ [c] ++ ·) := by
  rw [pieces_cons_of_ne h, List.modifyHead_modifyHead]
  congr 1
  funext piece
  simp

/-- Trimming leaves nothing of a carriage return in front of a line feed, whatever text `a` stands in
front of the first line. -/
lemma map_trim_modifyHead_joinLineEnds (a s : List Char) :
    ((pieces '\n' (joinLineEnds s)).modifyHead (a ++ ·)).map trim =
      ((pieces '\n' s).modifyHead (a ++ ·)).map trim := by
  fun_induction joinLineEnds s generalizing a with
  | case1 rest ih =>
    have hrest := ih []
    simp only [modifyHead_nil_append] at hrest
    have hreturn : trim (a ++ ['\r']) = trim a :=
      trim_append_blank (allBlank_singleton (by decide)) a
    rw [modifyHead_pieces_cons (by decide) a ('\n' :: rest), pieces_cons_self, pieces_cons_self]
    simp [hreturn, hrest]
  | case2 c rest hc ih =>
    by_cases hfeed : c = '\n'
    · have hrest := ih []
      simp only [modifyHead_nil_append] at hrest
      rw [hfeed, pieces_cons_self, pieces_cons_self]
      simp [hrest]
    · rw [modifyHead_pieces_cons hfeed, modifyHead_pieces_cons hfeed, ih]
  | case3 => rfl

lemma map_trim_pieces_joinLineEnds (s : List Char) :
    (pieces '\n' (joinLineEnds s)).map trim = (pieces '\n' s).map trim := by
  have h := map_trim_modifyHead_joinLineEnds [] s
  rwa [modifyHead_nil_append, modifyHead_nil_append] at h

/-! ## Pages -/

/-- Blanks on one line. -/
abbrev Spaces := { s : List Char // AllBlank s ∧ '\n' ∉ s }

/-- A text on one line, without blanks around it.  It may be empty. -/
abbrev LineText := { s : List Char // trim s = s ∧ '\n' ∉ s }

/-- A line as it is printed: a text, indented and followed by blanks. -/
structure PrintedLine where
  indent : Spaces
  content : LineText
  trail : Spaces

/-- How a line ends. -/
inductive LineEnd where
  | feed
  | returnFeed

/-- Printed lines, each but the last with its end. -/
structure Page where
  ended : List (PrintedLine × LineEnd)
  last : PrintedLine

namespace PrintedLine

/-- A printed line as a text. -/
def text (l : PrintedLine) : List Char :=
  l.indent.1 ++ (l.content.1 ++ l.trail.1)

lemma trim_text (l : PrintedLine) : trim l.text = l.content.1 := by
  rw [text, trim_blank_append l.indent.2.1, trim_append_blank l.trail.2.1, l.content.2.1]

lemma feed_notMem_text (l : PrintedLine) : '\n' ∉ l.text := by
  simp [text, l.indent.2.2, l.content.2.2, l.trail.2.2]

end PrintedLine

/-- A line end as a text. -/
def LineEnd.text : LineEnd → List Char
  | feed => ['\n']
  | returnFeed => ['\r', '\n']

namespace Page

/-- A page as a text. -/
def text (page : Page) : List Char :=
  page.ended.flatMap (fun l => l.1.text ++ l.2.text) ++ page.last.text

/-- The texts of the lines of a page. -/
def lineTexts (page : Page) : List (List Char) :=
  page.ended.map (·.1.content.1) ++ [page.last.content.1]

/-- The texts of the lines of a page that are not blank. -/
def contents (page : Page) : List (List Char) :=
  page.lineTexts.filter (!·.isEmpty)

/-- A printed line is one piece, whichever way it ends. -/
lemma map_trim_pieces_append (l : PrintedLine) (lineEnd : LineEnd) (s : List Char) :
    (pieces '\n' (l.text ++ (lineEnd.text ++ s))).map trim =
      l.content.1 :: (pieces '\n' s).map trim := by
  cases lineEnd with
  | feed =>
    rw [LineEnd.text, List.singleton_append, pieces_append_cons,
      pieces_of_not_mem l.feed_notMem_text]
    simp [l.trim_text]
  | returnFeed =>
    have htext : l.text ++ (LineEnd.returnFeed.text ++ s) = (l.text ++ ['\r']) ++ '\n' :: s := by
      simp [LineEnd.text]
    have hfree : '\n' ∉ l.text ++ ['\r'] := by simp [l.feed_notMem_text]
    have hreturn : trim (l.text ++ ['\r']) = trim l.text :=
      trim_append_blank (allBlank_singleton (by decide)) l.text
    rw [htext, pieces_append_cons, pieces_of_not_mem hfree]
    simp [hreturn, l.trim_text]

/-- **The lines of a page.**  Blanks around a line and the way it ends cannot be seen. -/
theorem map_trim_pieces_text (page : Page) :
    (pieces '\n' page.text).map trim = page.lineTexts := by
  obtain ⟨ended, last⟩ := page
  induction ended with
  | nil => simp [text, lineTexts, pieces_of_not_mem last.feed_notMem_text, last.trim_text]
  | cons l ended ih =>
    simp only [text, lineTexts] at ih
    simp only [text, lineTexts, List.flatMap_cons, List.append_assoc, map_trim_pieces_append, ih,
      List.map_cons, List.cons_append]

end Page

end ProjectCheck.Text
