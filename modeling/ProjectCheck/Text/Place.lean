import ProjectCheck.Text.Cut
import ProjectCheck.Text.Word

/-!
# Places in a text

Looking for a shape at every place of a text.  A reader sees the character before the place and
the text from the place on, and returns what it read together with the text after it.  `finds`
collects what a reader reads at the leftmost places, each search going on after the last find, so
finds do not overlap.
-/

namespace ProjectCheck.Text

/-! ## Readers -/

/-- Drops one blank or more. -/
def dropBlanks? : List Char → Option (List Char)
  | [] => none
  | c :: rest => if isBlank c then some (trimStart rest) else none

/-- The word at the front: the longest non-empty run of word characters. -/
def takeWord? (s : List Char) : Option (List Char × List Char) :=
  match s.takeWhile isWordChar with
  | [] => none
  | word => some (word, s.dropWhile isWordChar)

/-- Whether a word begins between a character and a text that starts with a word character. -/
def beginsWord (before : Option Char) : Bool :=
  !isWordSide before

/-- Whether a word ends in front of a text that follows a word character. -/
def endsWord (rest : List Char) : Bool :=
  !isWordSide rest.head?

/-- The first of some words that a text starts with, and the text after it. -/
def afterOneOf? (words : List String) (s : List Char) : Option (String × List Char) :=
  words.findSome? fun word => (afterPrefix? word.toList s).map (word, ·)

/-! ## Searching -/

/-- Whether a test succeeds at some place of a text that follows `before`. -/
def somewhereAfter (test : Option Char → List Char → Bool) :
    Option Char → List Char → Bool
  | before, [] => test before []
  | before, c :: rest => test before (c :: rest) || somewhereAfter test (some c) rest

/-- Whether a test succeeds at some place of a text. -/
def somewhere (test : Option Char → List Char → Bool) (s : List Char) : Bool :=
  somewhereAfter test none s

/-- Something read in a text: what stands before it in reverse, its text, and what it means. -/
structure Find (α : Type) where
  before : List Char
  text : List Char
  content : α

namespace Find

variable {α : Type}

/-- How many characters stand before a find. -/
def offset (f : Find α) : Nat :=
  f.before.length

/-- The number of the line, counted from one, that a find begins on. -/
def line (f : Find α) : Nat :=
  lineAfter f.before

end Find

variable {α : Type}

/-- The finds of a reader in a text that follows `before`, which is in reverse. -/
def findsAfter (reader : Option Char → List Char → Option (α × List Char))
    (before : List Char) : List Char → List (Find α)
  | [] => []
  | c :: rest =>
    match reader before.head? (c :: rest) with
    | none => findsAfter reader (c :: before) rest
    | some (content, after) =>
      if after.length ≤ rest.length then
        let text := (c :: rest).take (rest.length + 1 - after.length)
        ⟨before, text, content⟩ :: findsAfter reader (text.reverse ++ before) after
      else findsAfter reader (c :: before) rest
termination_by s => s.length
decreasing_by all_goals simp only [List.length_cons]; omega

/-- What a reader reads in a text, leftmost first and without overlaps. -/
def finds (reader : Option Char → List Char → Option (α × List Char)) (s : List Char) :
    List (Find α) :=
  findsAfter reader [] s

end ProjectCheck.Text
