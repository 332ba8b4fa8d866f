import ProjectCheck.Text.Utf8

/-!
# Names in what tools say

A tool shows a name so that a shell would read it back as one word.  A plain name may stand as it is, and
any other one stands between single quotes.  A single quote inside stands between two parts of its own, if
double quotes around the whole do not serve as well, and signs that do not show stand for themselves as
escapes.
-/

namespace ProjectCheck.Shell

open ProjectCheck.Text

/-- Whether a character can be seen. -/
def isShown (c : Char) : Bool :=
  !(c.toNat < 32 || (127 ≤ c.toNat && c.toNat < 160))

/-- The letter that stands for a character behind a backslash. -/
def escapeLetter? (c : Char) : Option Char :=
  [('\x07', 'a'), ('\x08', 'b'), ('\x0c', 'f'), ('\n', 'n'), ('\r', 'r'), ('\t', 't'),
    ('\x0b', 'v')].lookup c

/-- The escapes for a character: one with its letter, or one with the digits of each byte. -/
def escapeOf (c : Char) : List Char :=
  match escapeLetter? c with
  | some letter => ['\\', letter]
  | none =>
    (String.singleton c).toUTF8.toList.flatMap fun b =>
      let digit := fun (n : Nat) => Char.ofNat (48 + n % 8)
      ['\\', digit (b.toNat / 64), digit (b.toNat / 8), digit b.toNat]

/-- Whether a shell takes a character for itself wherever it stands. -/
def isAlwaysPlain (c : Char) : Bool :=
  !("!\"$&()*;<=>[^\x60|?' \\".toList.contains c) && isShown c

/-- Whether a character is one that a shell may read as more than itself at the front of a name, or, for
braces, as a name of its own. -/
def isOddAt (whole : List Char) (place : Nat) (c : Char) : Bool :=
  (place == 0 && (c == '#' || c == '~')) ||
    ((c == '\x7b' || c == '\x7d') && whole.length == 1)

/-- Whether a name may stand without quotes. -/
def isPlainName (s : List Char) : Bool :=
  !s.isEmpty && s.zipIdx.all fun (c, i) => isAlwaysPlain c && !isOddAt s i c

/-- Whether a name with a single quote may stand between double quotes. -/
def fitsDoubleQuotes (s : List Char) : Bool :=
  s.zipIdx.all fun (c, i) =>
    let isBrace := c == '\x7b' || c == '\x7d'
    c == '\'' || c == ' ' ||
      (isAlwaysPlain c && (isOddAt s i c || !(isBrace || c == '#' || c == '~')))

/-- The inside of single quotes, `isEscaping` while escapes are written. -/
def citedInside (isEscaping : Bool) : List Char → List Char
  | [] => []
  | c :: rest =>
    if !isShown c then
      (if isEscaping then [] else "'$'".toList) ++ escapeOf c ++ citedInside true rest
    else if c == '\'' then "'\\''".toList ++ citedInside false rest
    else (if isEscaping then "''".toList else []) ++ c :: citedInside false rest

/-- A name between quotes. -/
def cited (name : String) : String :=
  let s := name.toList
  if s.contains '\'' && fitsDoubleQuotes s then "\"" ++ name ++ "\""
  else String.ofList ('\'' :: citedInside false s ++ ['\''])

/-- A name as it is if it is plain and has no colon, and between quotes if not. -/
def citedIfOdd (name : String) : String :=
  if isPlainName name.toList && !name.toList.contains ':' then name else cited name

/-- A text between the quotes of printed matter. -/
def quoted (s : String) : String :=
  "‘" ++ String.ofList (s.toList.flatMap fun c =>
    if !isShown c then escapeOf c else if c == '’' then ['\\', c] else if c == '\\' then ['\\', c] else [c]) ++ "’"

end ProjectCheck.Shell
