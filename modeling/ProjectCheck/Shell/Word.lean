import ProjectCheck.Text.Cut

/-!
# Shell words

Writing any text as one word of a shell command.  A text of harmless characters stands for itself.
Any other text is put between single quotes, inside of which nothing has a meaning; a single quote
itself is written by closing the quotes, giving the quote in double quotes, and opening them again.
-/

namespace ProjectCheck.Shell

/-- The characters other than letters and digits that mean nothing to a shell. -/
def harmlessMarks : List Char :=
  "_@%+=:,./-".toList

/-- Whether a character means nothing to a shell. -/
def isHarmless (c : Char) : Bool :=
  c.isAlphanum || harmlessMarks.contains c

/-- What a character is written as between single quotes. -/
def insideQuotes (c : Char) : List Char :=
  if c == '\'' then ['\'', '"', '\'', '"', '\''] else [c]

/-- A text between single quotes. -/
def singleQuoted (s : List Char) : List Char :=
  '\'' :: s.flatMap insideQuotes ++ ['\'']

/-- A text as one word. -/
def word (s : List Char) : List Char :=
  if s.isEmpty then ['\'', '\''] else if s.all isHarmless then s else singleQuoted s

/-- A string as one word. -/
def quote (s : String) : String :=
  String.ofList (word s.toList)

end ProjectCheck.Shell
