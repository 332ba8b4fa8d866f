import ProjectCheck.Text.Class

/-!
# Cutting texts

Trimming, searching and splitting over lists of characters.

`cutAt?` finds the first occurrence of a separator and returns what stands before and after it;
`splitOn` repeats this, so its pieces lie between the leftmost occurrences that do not overlap.
`cutAt?_eq_some` says that nothing is lost, and `length_lt_of_cutAt?` that the rest is shorter,
which is why the splitting ends.

Lines come in two kinds.  `pieces '\n'` splits at the line feed alone, and `textLines` at every
character that ends a line of text; only the second drops the empty piece after a final line end.
-/

namespace ProjectCheck.Text

/-! ## Trimming -/

/-- Drops the blanks at the front. -/
def trimStart (s : List Char) : List Char :=
  s.dropWhile isBlank

/-- Drops the characters at the end that have a property. -/
def dropEndWhile (p : Char → Bool) (s : List Char) : List Char :=
  (s.reverse.dropWhile p).reverse

/-- Drops the blanks at the end. -/
def trimEnd (s : List Char) : List Char :=
  dropEndWhile isBlank s

/-- Drops the blanks at both ends. -/
def trim (s : List Char) : List Char :=
  trimEnd (trimStart s)

/-- Whether a text holds nothing but blanks. -/
def isBlankText (s : List Char) : Bool :=
  s.all isBlank

/-- A text cut off after a number of characters. -/
def shorten (limit : Nat) (s : String) : String :=
  String.ofList (s.toList.take limit)

/-! ## Searching -/

/-- What follows a prefix, if the text starts with it. -/
def afterPrefix? : List Char → List Char → Option (List Char)
  | [], s => some s
  | _ :: _, [] => none
  | a :: lead, c :: s => if a = c then afterPrefix? lead s else none

/-- Drops a prefix once, if the text starts with it. -/
def dropLead (lead s : List Char) : List Char :=
  (afterPrefix? lead s).getD s

/-- Cuts a text at the first occurrence of `sep`: what stands before it and what after it. -/
def cutAt? (sep : List Char) : List Char → Option (List Char × List Char)
  | [] => if sep.isEmpty then some ([], []) else none
  | c :: rest =>
    match afterPrefix? sep (c :: rest) with
    | some after => some ([], after)
    | none => (cutAt? sep rest).map fun cut => (c :: cut.1, cut.2)

/-- Whether `part` occurs in a text. -/
def occursIn (part s : List Char) : Bool :=
  (cutAt? part s).isSome

/-! ## Splitting -/

theorem afterPrefix?_eq_some {lead s after : List Char} (h : afterPrefix? lead s = some after) :
    s = lead ++ after := by
  fun_induction afterPrefix? lead s <;> simp_all

theorem cutAt?_eq_some {sep s before after : List Char} (h : cutAt? sep s = some (before, after)) :
    s = before ++ sep ++ after := by
  induction s generalizing before after with
  | nil =>
    simp only [cutAt?] at h
    split at h <;> simp_all
  | cons c rest ih =>
    simp only [cutAt?] at h
    split at h
    · rename_i a ha
      simp only [Option.some.injEq, Prod.mk.injEq] at h
      obtain ⟨rfl, rfl⟩ := h
      simpa using afterPrefix?_eq_some ha
    · obtain ⟨cut, hcut, hpair⟩ := Option.map_eq_some_iff.1 h
      simp only [Prod.mk.injEq] at hpair
      obtain ⟨rfl, rfl⟩ := hpair
      simp [ih hcut]

theorem length_lt_of_cutAt? {sep s before after : List Char} (hsep : sep ≠ [])
    (h : cutAt? sep s = some (before, after)) : after.length < s.length := by
  have hlen : 0 < sep.length := List.length_pos_iff.2 hsep
  rw [cutAt?_eq_some h]
  simp only [List.length_append]
  omega

/-- The pieces between the leftmost occurrences of `sep` that do not overlap.  The empty separator
occurs nowhere. -/
def splitOn (sep s : List Char) : List (List Char) :=
  if _hsep : sep = [] then [s]
  else
    match _h : cutAt? sep s with
    | none => [s]
    | some (before, after) => before :: splitOn sep after
termination_by s.length
decreasing_by exact length_lt_of_cutAt? _hsep _h

/-- The pieces between the occurrences of one character. -/
def pieces (sep : Char) : List Char → List (List Char)
  | [] => [[]]
  | c :: rest =>
    if c == sep then [] :: pieces sep rest
    else
      match pieces sep rest with
      | [] => [[c]]
      | piece :: others => (c :: piece) :: others

/-- Puts a separator between pieces. -/
def joinWith (sep : List Char) (parts : List (List Char)) : List Char :=
  List.intercalate sep parts

/-- Replaces every pair of carriage return and line feed by a line feed. -/
def joinLineEnds : List Char → List Char
  | '\r' :: '\n' :: rest => '\n' :: joinLineEnds rest
  | c :: rest => c :: joinLineEnds rest
  | [] => []

/-- A text with a line feed at each line end. -/
def unifyLineEnds : List Char → List Char
  | '\r' :: '\n' :: rest => '\n' :: unifyLineEnds rest
  | c :: rest => (if c == '\r' then '\n' else c) :: unifyLineEnds rest
  | [] => []

/-! ## Lines of text -/

/-- The characters that end a line of text. -/
def isLineEnd (c : Char) : Bool :=
  let n := c.toNat
  (0x0A ≤ n && n ≤ 0x0D) || (0x1C ≤ n && n ≤ 0x1E) || n == 0x85 || n == 0x2028 || n == 0x2029

/-- The lines of a text, the one in progress being `line` in reverse. -/
def linesAfter (line : List Char) : List Char → List (List Char)
  | [] => if line.isEmpty then [] else [line.reverse]
  | '\r' :: '\n' :: rest => line.reverse :: linesAfter [] rest
  | c :: rest =>
    if isLineEnd c then line.reverse :: linesAfter [] rest else linesAfter (c :: line) rest

/-- The lines of a text; a final line end does not open another line. -/
def textLines (s : List Char) : List (List Char) :=
  linesAfter [] s

/-! ## Positions -/

/-- The number of the line, counted from one, on which a text continues after `before`. -/
def lineAfter (before : List Char) : Nat :=
  before.count '\n' + 1

end ProjectCheck.Text
