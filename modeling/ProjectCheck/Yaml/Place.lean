/-!
# Faults of a YAML text

Why a text gives no value.  A text that is well formed may still say something that cannot be: a
number without digits, a day that the calendar does not have, a character without a code.
-/

namespace ProjectCheck.Yaml

/-- Why a text gives no value. -/
inductive Fault where
  /-- The text is no YAML. -/
  | malformed
  /-- A number, a moment or a character is spelled that does not exist. -/
  | meaningless
  /-- A number is spelled that is too great to be reckoned with. -/
  | tooGreat
  /-- The nodes are nested too deeply. -/
  | tooDeep
deriving Repr, DecidableEq

/-- What there is, or the fault that the text is no YAML. -/
def orMalformed {α : Type} : Option α → Except Fault α
  | some a => .ok a
  | none => .error .malformed

/-!
## Places in a YAML text

A place is what is left of a text together with where it stands: the column tells which block a line
belongs to, and the line and the number of characters before it tell how far a colon may be from the
key that it marks.  Five characters end lines, and of them all but two stand for a line feed.
-/

/-! ## Characters -/

/-- Whether a character ends a line. -/
def isBreak (c : Char) : Bool :=
  c == '\n' || c == '\r' || c == '\u0085' || c == '\u2028' || c == '\u2029'

/-- Whether a text ends here, or a blank or a line end stands here. -/
def endsToken : List Char → Bool
  | [] => true
  | c :: _ => c == ' ' || c == '\t' || isBreak c

/-- Whether a text ends here, or a line end stands here. -/
def endsLine : List Char → Bool
  | [] => true
  | c :: _ => isBreak c

/-- Whether a character may stand in a text at all. -/
def isAllowed (c : Char) : Bool :=
  let n := c.toNat
  n == 0x09 || n == 0x0A || n == 0x0D || (0x20 ≤ n && n ≤ 0x7E) || n == 0x85 ||
    (0xA0 ≤ n && n ≤ 0xD7FF) || (0xE000 ≤ n && n ≤ 0xFFFD) || 0x10000 ≤ n

/-- A line end at the front: what it stands for, and what follows. -/
def takeBreak? : List Char → Option (Char × List Char)
  | '\r' :: '\n' :: rest => some ('\n', rest)
  | c :: rest =>
    if c == '\u2028' || c == '\u2029' then some (c, rest)
    else if isBreak c then some ('\n', rest)
    else none
  | [] => none

/-- Whether a marker between documents stands at the front. -/
def isDocumentMark (s : List Char) : Bool :=
  match s with
  | '-' :: '-' :: '-' :: rest => endsToken rest
  | '.' :: '.' :: '.' :: rest => endsToken rest
  | _ => false

/-! ## Places -/

/-- A place in a text: what follows it, its column and line, and how many characters stand before
it. -/
structure Place where
  rest : List Char
  column : Nat := 0
  line : Nat := 0
  index : Nat := 0
deriving Repr

namespace Place

/-- The place behind some characters of the same line. -/
def forward (p : Place) (n : Nat) : Place :=
  { p with rest := p.rest.drop n, column := p.column + n, index := p.index + n }

/-- The place on the next line, before `rest`. -/
def nextLine (p : Place) (rest : List Char) : Place :=
  { rest, column := 0, line := p.line + 1, index := p.index + (p.rest.length - rest.length) }

/-- How many characters with a property stand at a place. -/
def count (p : Place) (test : Char → Bool) : Nat :=
  (p.rest.takeWhile test).length

/-- The place behind the blanks. -/
def skipBlanks (p : Place) : Place :=
  p.forward (p.count (· == ' '))

/-- The place behind the blanks and tabs. -/
def skipTabs (p : Place) : Place :=
  p.forward (p.count fun c => c == ' ' || c == '\t')

/-- The place at the end of the line. -/
def skipLine (p : Place) : Place :=
  p.forward (p.count (!isBreak ·))

end Place

/-! ## Folding -/

/-- What a line end and the line ends behind it stand for inside a scalar. -/
def folded (first : Char) (more : List Char) : List Char :=
  if first != '\n' then first :: more else if more.isEmpty then [' '] else more

end ProjectCheck.Yaml
