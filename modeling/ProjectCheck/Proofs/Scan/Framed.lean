import ProjectCheck.Proofs.Text.Occurrence
import ProjectCheck.Proofs.Text.Trimming
import ProjectCheck.Scan.Stream

/-!
# Framed files

The writer beside `Stream.decode`.  A printed file is some noise, and then a path and a content
between the delimiters, one after the other as the reading command prints them.  It is well framed
if the delimiters cannot be mistaken: the opening does not occur in what it opens, and the closing
occurs only where it closes.

The delimiters hold no line feed, so no occurrence reaches over the end of a line.  Hence taking a
stream apart finds exactly the blocks that were put in (`blocksIn_throughClosing_append`), and a
file that was cut off before the end of its closing leaves nothing
(`eq_nothing_of_mem_blocksIn_cut`).
-/

namespace ProjectCheck.Scan

open ProjectCheck.Text

/-! ## Writing -/

/-- Delimiters that are not empty and stand on one line. -/
structure Framing.IsOnOneLine (framing : Framing) : Prop where
  opening_ne : framing.opening ≠ ""
  closing_ne : framing.closing ≠ ""
  opening_line : '\n' ∉ framing.opening.toList
  closing_line : '\n' ∉ framing.closing.toList

lemma Framing.IsOnOneLine.opening_toList_ne {framing : Framing} (h : framing.IsOnOneLine) :
    framing.opening.toList ≠ [] := by
  simpa using h.opening_ne

lemma Framing.IsOnOneLine.closing_toList_ne {framing : Framing} (h : framing.IsOnOneLine) :
    framing.closing.toList ≠ [] := by
  simpa using h.closing_ne

/-- A file that was printed, behind some noise.  There is no content if it could not be read. -/
structure PrintedFile where
  noise : String := ""
  path : String
  content : Option String
deriving Repr, DecidableEq

namespace PrintedFile

/-- What is printed for the content: the mark for unreadable files if there is none. -/
def text (framing : Framing) (f : PrintedFile) : String :=
  f.content.getD (framing.unreadable ++ "\n")

/-- What is printed for a file, up to the end of its closing. -/
def throughClosing (framing : Framing) (f : PrintedFile) : String :=
  f.noise ++ framing.opening ++ "\n" ++ f.path ++ "\n" ++ f.text framing ++ framing.closing

/-- The delimiters around a printed file cannot be mistaken: noise ends its line and does not open a
file, the path is trimmed and stands on one line, and in what is between the delimiters the opening
does not occur and the closing occurs first at the end. -/
structure IsWellFramed (framing : Framing) (f : PrintedFile) : Prop where
  noise_line : f.noise = "" ∨ f.noise.toList.getLast? = some '\n'
  noise_plain : ¬ framing.opening.toList <:+: f.noise.toList
  path_ne : f.path ≠ ""
  path_line : '\n' ∉ f.path.toList
  path_trimmed : trim f.path.toList = f.path.toList
  opening_absent :
    ¬ framing.opening.toList <:+: (f.path ++ "\n" ++ f.text framing ++ framing.closing).toList
  closing_first : FirstAtEnd framing.closing.toList (f.path ++ "\n" ++ f.text framing).toList

/-- The file that is recovered: none if it could not be read, or if its content is blank or the mark
for unreadable files. -/
def file? (framing : Framing) (f : PrintedFile) : Option ScannedFile :=
  match f.content with
  | none => none
  | some content =>
    if trim content.toList = framing.unreadable.toList ∨ AllBlank content.toList then none
    else some ⟨f.path, content⟩

/-- The path that is reported: the file could not be read, or its content is the mark for such
files. -/
def skipped? (framing : Framing) (f : PrintedFile) : Option String :=
  match f.content with
  | none => some f.path
  | some content => if trim content.toList = framing.unreadable.toList then some f.path else none

/-- What stands between the delimiters of a file, without the line feed in front. -/
def body (framing : Framing) (f : PrintedFile) : List Char :=
  f.path.toList ++ '\n' :: (f.text framing).toList

lemma text_of_some {framing : Framing} {f : PrintedFile} {content : String}
    (h : f.content = some content) : f.text framing = content := by
  rw [text, h, Option.getD_some]

lemma text_of_none {framing : Framing} {f : PrintedFile} (h : f.content = none) :
    f.text framing = framing.unreadable ++ "\n" := by
  rw [text, h, Option.getD_none]

lemma toList_throughClosing (framing : Framing) (f : PrintedFile) :
    (f.throughClosing framing).toList =
      f.noise.toList ++ (framing.opening.toList ++
        ('\n' :: f.body framing ++ framing.closing.toList)) := by
  simp [throughClosing, body]

namespace IsWellFramed

variable {framing : Framing} {f : PrintedFile}

lemma noise_toList (h : f.IsWellFramed framing) :
    f.noise.toList = [] ∨ f.noise.toList.getLast? = some '\n' := by
  simpa using h.noise_line

/-- The opening does not occur up to the end of the closing. -/
lemma absent (h : f.IsWellFramed framing) (hframing : framing.IsOnOneLine) :
    ¬ framing.opening.toList <:+: '\n' :: f.body framing ++ framing.closing.toList := by
  have hbody : ¬ framing.opening.toList <:+: f.body framing ++ framing.closing.toList := by
    simpa [body] using h.opening_absent
  intro hin
  rcases (infix_append_cons_iff (a := []) hframing.opening_line).1 hin with hnil | hin
  · exact hframing.opening_toList_ne (List.infix_nil.1 hnil)
  · exact hbody hin

/-- The closing occurs first at its place. -/
lemma first (h : f.IsWellFramed framing) (hframing : framing.IsOnOneLine) :
    FirstAtEnd framing.closing.toList ('\n' :: f.body framing) := by
  have hbody : FirstAtEnd framing.closing.toList (f.body framing) := by
    simpa [body] using h.closing_first
  have hnil : ¬ framing.closing.toList <:+: [] :=
    fun hin => hframing.closing_toList_ne (List.infix_nil.1 hin)
  exact hbody.append_cons hframing.closing_line hnil

/-- The opening does not reach from the content into the closing. -/
lemma absent_content (h : f.IsWellFramed framing) :
    ¬ framing.opening.toList <:+: (f.text framing ++ framing.closing).toList := by
  intro hin
  refine h.opening_absent (hin.trans ⟨f.path.toList ++ ['\n'], [], ?_⟩)
  simp

/-- The closing does not begin in the content. -/
lemma first_content (h : f.IsWellFramed framing) :
    FirstAtEnd framing.closing.toList (f.text framing).toList := by
  have hfirst := h.closing_first
  rw [String.toList_append] at hfirst
  exact hfirst.of_append

end IsWellFramed

end PrintedFile

/-! ## Blocks of a text -/

/-- The blocks of a stream, given as a list of characters. -/
def blocksIn (framing : Framing) (s : List Char) : List Block :=
  ((splitOn framing.opening.toList s).drop 1).map
    (.ofText framing.closing.toList framing.unreadable.toList)

section

variable {framing : Framing}

lemma blocksIn_of_absent {s : List Char} (h : ¬ framing.opening.toList <:+: s) :
    blocksIn framing s = [] := by
  rw [blocksIn, splitOn_of_absent h]
  rfl

/-- A line that opens no file is passed over. -/
lemma blocksIn_append_cons (hframing : framing.IsOnOneLine) {line : List Char}
    (h : ¬ framing.opening.toList <:+: line) (rest : List Char) :
    blocksIn framing (line ++ '\n' :: rest) = blocksIn framing rest := by
  rw [blocksIn, blocksIn, splitOn_append_cons hframing.opening_line h]
  cases splitOn framing.opening.toList rest <;> rfl

/-- Noise is passed over. -/
lemma blocksIn_noise (hframing : framing.IsOnOneLine) {noise : List Char}
    (hline : noise = [] ∨ noise.getLast? = some '\n')
    (h : ¬ framing.opening.toList <:+: noise) (rest : List Char) :
    blocksIn framing (noise ++ rest) = blocksIn framing rest := by
  rcases hline with rfl | hlast
  · rfl
  · obtain ⟨line, rfl⟩ := List.getLast?_eq_some_iff.1 hlast
    rw [List.append_assoc, List.singleton_append]
    exact blocksIn_append_cons hframing
      (fun hin => h (List.infix_append_of_infix_left hin)) rest

/-- An opening makes a block of everything up to the next one. -/
lemma blocksIn_opening (hframing : framing.IsOnOneLine) (rest : List Char) :
    blocksIn framing (framing.opening.toList ++ rest) =
      (splitOn framing.opening.toList rest).map
        (.ofText framing.closing.toList framing.unreadable.toList) := by
  have hcut : cutAt? framing.opening.toList (framing.opening.toList ++ rest) = some ([], rest) :=
    cutAt?_append (FirstAtEnd.nil _) rest
  rw [blocksIn, splitOn_eq_cons_of_cutAt? hframing.opening_toList_ne hcut]
  rfl

/-! ## Blocks of printed files -/

variable {f : PrintedFile}

/-- The block that a printed file makes. -/
def PrintedFile.block (framing : Framing) (f : PrintedFile) : Block :=
  .ofBody framing.unreadable.toList ('\n' :: f.body framing)

/-- A printed file up to the end of its closing, and whatever follows it, makes its block. -/
lemma ofText_block (hframing : framing.IsOnOneLine) (h : f.IsWellFramed framing)
    (after : List Char) :
    Block.ofText framing.closing.toList framing.unreadable.toList
      ('\n' :: f.body framing ++ framing.closing.toList ++ after) = f.block framing := by
  rw [Block.ofText, cutAt?_append (h.first hframing)]
  rfl

/-- A printed file that was cut off right behind its closing makes its block. -/
lemma blocksIn_throughClosing (hframing : framing.IsOnOneLine) (h : f.IsWellFramed framing) :
    blocksIn framing (f.throughClosing framing).toList = [f.block framing] := by
  have hblock := ofText_block hframing h []
  rw [List.append_nil] at hblock
  rw [PrintedFile.toList_throughClosing, blocksIn_noise hframing h.noise_toList h.noise_plain,
    blocksIn_opening hframing, splitOn_of_absent (h.absent hframing), List.map_singleton, hblock]

/-- A printed file makes its block and leaves the lines that follow alone. -/
lemma blocksIn_throughClosing_append (hframing : framing.IsOnOneLine)
    (h : f.IsWellFramed framing) (rest : List Char) :
    blocksIn framing ((f.throughClosing framing).toList ++ '\n' :: rest) =
      f.block framing :: blocksIn framing rest := by
  rw [PrintedFile.toList_throughClosing, List.append_assoc, List.append_assoc,
    blocksIn_noise hframing h.noise_toList h.noise_plain, blocksIn_opening hframing,
    splitOn_append_cons hframing.opening_line (h.absent hframing), blocksIn]
  cases hsplit : splitOn framing.opening.toList rest with
  | nil => exact absurd hsplit (splitOn_ne_nil _ _)
  | cons first others =>
    rw [List.modifyHead_cons, List.map_cons, ofText_block hframing h]
    rfl

/-- A printed file that was cut off before the end of its closing leaves nothing. -/
lemma eq_nothing_of_mem_blocksIn_cut (hframing : framing.IsOnOneLine)
    (h : f.IsWellFramed framing) {cut : List Char}
    (hcut : cut <+: (f.throughClosing framing).toList)
    (hlen : cut.length < (f.throughClosing framing).length) :
    ∀ block ∈ blocksIn framing cut, block = .nothing := by
  rw [← String.length_toList] at hlen
  rw [PrintedFile.toList_throughClosing] at hcut hlen
  rcases prefix_append_cases hcut with ⟨hnoise, -⟩ | ⟨cut₁, rfl, hcut₁⟩
  · -- cut off in the noise
    have hplain : ¬ framing.opening.toList <:+: cut :=
      fun hin => h.noise_plain (hin.trans hnoise.isInfix)
    simp [blocksIn_of_absent hplain]
  rw [blocksIn_noise hframing h.noise_toList h.noise_plain]
  rcases prefix_append_cases hcut₁ with ⟨-, hshort⟩ | ⟨cut₂, rfl, hcut₂⟩
  · -- cut off in the opening
    have hplain : ¬ framing.opening.toList <:+: cut₁ :=
      fun hin => absurd hin.length_le (Nat.not_le.2 hshort)
    simp [blocksIn_of_absent hplain]
  · -- cut off behind the opening
    have hshort : cut₂.length < ('\n' :: f.body framing ++ framing.closing.toList).length := by
      simpa using hlen
    have hopening : ¬ framing.opening.toList <:+: cut₂ :=
      fun hin => h.absent hframing (hin.trans hcut₂.isInfix)
    have hclosing : ¬ framing.closing.toList <:+: cut₂ :=
      (h.first hframing).absent_in_cut hcut₂ hshort
    rw [blocksIn_opening hframing, splitOn_of_absent hopening, List.map_singleton, Block.ofText,
      cutAt?_eq_none_iff.2 hclosing]
    simp

end

end ProjectCheck.Scan
