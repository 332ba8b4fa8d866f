import ProjectCheck.Shell.Token
import ProjectCheck.Text.Word

/-!
# Patterns

In a pattern a star stands for any characters, a question mark for any one, brackets for any of the
characters that are listed in them, and every other character for itself.  A character has its
meaning only if it was not quoted, so patterns are made of characters that know whether they may stand
for others.
-/

namespace ProjectCheck.Shell

open ProjectCheck.Text

/-- Characters of a word, and whether each may stand for others. -/
abbrev Piece := List (Char × Bool)

/-- Characters that are listed in brackets. -/
inductive CharSet where
  | range (first last : Char)
  | letters
  | digits
  | lettersAndDigits
  /-- Letters, digits and the underscore. -/
  | wordParts
  | capitals
  | smallLetters
  | blanks
  | gaps
  | marks
  | hexDigits
  | visible
  | printable
  | controls
deriving Repr, DecidableEq

namespace CharSet

/-- The sets that go by names. -/
def names : List (String × CharSet) :=
  [("alpha", letters), ("digit", digits), ("alnum", lettersAndDigits), ("upper", capitals),
   ("lower", smallLetters), ("blank", blanks), ("space", gaps), ("punct", marks),
   ("xdigit", hexDigits), ("graph", visible), ("print", printable), ("cntrl", controls)]

/-- Whether a character is in a set. -/
def holds (c : Char) : CharSet → Bool
  | range first last => first ≤ c && c ≤ last
  | letters => c.isAlpha
  | digits => c.isDigit
  | lettersAndDigits => c.isAlphanum
  | wordParts => isWordChar c
  | capitals => c.isUpper
  | smallLetters => c.isLower
  | blanks => c == ' ' || c == '\t'
  | gaps => c == ' ' || ('\t' ≤ c && c ≤ '\r')
  | marks => '!' ≤ c && c ≤ '~' && !c.isAlphanum
  | hexDigits => c.isDigit || ('a' ≤ c && c ≤ 'f') || ('A' ≤ c && c ≤ 'F')
  | visible => '!' ≤ c && c ≤ '~'
  | printable => ' ' ≤ c && c ≤ '~'
  | controls => c < ' ' || c == '\x7f'

end CharSet

/-- A set of characters, or all others. -/
structure CharClass where
  isNegated : Bool
  sets : List CharSet
deriving Repr, DecidableEq

/-- Whether a character belongs to a class. -/
def CharClass.holds (class_ : CharClass) (c : Char) : Bool :=
  class_.sets.any (·.holds c) != class_.isNegated

/-- The set that a name between colons in brackets means, and how many characters it takes. -/
def namedSet? (s : List Char) : Option (CharSet × Nat) :=
  match s with
  | '[' :: ':' :: rest =>
    let name := rest.takeWhile Char.isAlpha
    if [':', ']'].isPrefixOf (rest.drop name.length) then
      (CharSet.names.lookup (String.ofList name)).map fun set => (set, name.length + 4)
    else none
  | _ => none

/-- The sets up to the bracket that closes them, and how many characters they take, that bracket
included.  A closing bracket at the beginning stands for itself. -/
def setsUpToClose? (isFirst : Bool) (s : List Char) : Option (List CharSet × Nat) :=
  match s with
  | [] => none
  | c :: rest =>
    if c == ']' && !isFirst then some ([], 1)
    else
      let goOn := fun (set : CharSet) (n : Nat) =>
        (setsUpToClose? false (rest.drop n)).map fun (sets, m) => (set :: sets, m + n + 1)
      match namedSet? (c :: rest) with
      | some (set, n) => goOn set (n - 1)
      | none =>
        match rest with
        | '-' :: last :: _ => if last == ']' then goOn (.range c c) 0 else goOn (.range c last) 2
        | _ => goOn (.range c c) 0
termination_by s.length

/-- The class behind an opening bracket, and how many characters it takes. -/
def charClass? (s : List Char) : Option (CharClass × Nat) :=
  let isNegated := s.head? == some '!' || s.head? == some '^'
  let skipped := if isNegated then 1 else 0
  (setsUpToClose? true (s.drop skipped)).map fun (sets, n) => (⟨isNegated, sets⟩, n + skipped)

/-- A part of a pattern. -/
inductive PatternPart where
  | anything
  | anyOne
  | oneOf (class_ : CharClass)
  | exactly (c : Char)
deriving Repr, DecidableEq

/-- A pattern. -/
abbrev Pattern := List PatternPart

namespace Pattern

/-- The pattern of a piece of a word. -/
def ofPiece (piece : Piece) : Pattern :=
  match piece with
  | [] => []
  | (c, isActive) :: rest =>
    if !isActive then .exactly c :: ofPiece rest
    else if c == '*' then .anything :: ofPiece rest
    else if c == '?' then .anyOne :: ofPiece rest
    else if c == '[' then
      match charClass? (rest.map (·.1)) with
      | some (class_, n) => .oneOf class_ :: ofPiece (rest.drop n)
      | none => .exactly c :: ofPiece rest
    else .exactly c :: ofPiece rest
termination_by piece.length

/-- The pattern that a text is. -/
def ofText (s : List Char) : Pattern :=
  ofPiece (s.map (·, true))

/-- The only text that a pattern stands for, if there is only one. -/
def literal? : Pattern → Option (List Char)
  | [] => some []
  | .exactly c :: rest => (literal? rest).map (c :: ·)
  | _ :: _ => none

/-- Whether a test passes at some place of a text. -/
def somewhereBehind (fits : List Char → Bool) : List Char → Bool
  | [] => fits []
  | c :: rest => fits (c :: rest) || somewhereBehind fits rest

/-- Whether a pattern fits a text. -/
def fits : Pattern → List Char → Bool
  | [], s => s.isEmpty
  | .anything :: rest, s => somewhereBehind (fits rest) s
  | _ :: _, [] => false
  | .anyOne :: rest, _ :: s => fits rest s
  | .oneOf class_ :: rest, c :: s => class_.holds c && fits rest s
  | .exactly p :: rest, c :: s => p == c && fits rest s

/-- Whether a pattern may find a name: names that begin with a dot are found only by patterns that
do. -/
def mayFind (pattern : Pattern) (name : List Char) : Bool :=
  name.head? != some '.' || pattern.head? == some (.exactly '.')

/-- How many characters a pattern can take from the front of a text, the fewest or the most. -/
def prefixLength? (pattern : Pattern) (isLongest : Bool) (s : List Char) : Option Nat :=
  let lengths := List.range (s.length + 1)
  (if isLongest then lengths.reverse else lengths).find? fun n => pattern.fits (s.take n)

/-- How many characters are left when a pattern takes some from the end of a text, the fewest or the
most. -/
def lengthWithoutEnd? (pattern : Pattern) (isLongest : Bool) (s : List Char) : Option Nat :=
  let lengths := List.range (s.length + 1)
  (if isLongest then lengths else lengths.reverse).find? fun n => pattern.fits (s.drop n)

end Pattern

end ProjectCheck.Shell
