import ProjectCheck.Shell.Pattern
import ProjectCheck.Text.Lowercase
import ProjectCheck.Text.Word

/-!
# Regular expressions

The regular expressions of the tools for lines, in their written forms.  In the basic form the signs
for groups, choices and counts stand behind backslashes, in the others they stand for themselves.

`ends` gives the places where an expression can end that begins at a place, each with what the groups
have taken, and no place twice.  Of all places the first one where an expression fits counts, and of
all ends there the last one.
-/

namespace ProjectCheck.Shell

open ProjectCheck.Text

/-- A regular expression. -/
inductive Expression where
  | nothing
  | exactly (c : Char)
  | anyOne
  | oneOf (class_ : CharClass)
  | lineStart
  | lineEnd
  | textStart
  | textEnd
  /-- Between a character of a word and another, or not there. -/
  | wordEdge (isEdge : Bool)
  | wordStart
  | wordEnd
  /-- No character of a word stands before. -/
  | clearBefore
  /-- No character of a word stands behind. -/
  | clearBehind
  | group (number : Nat) (inner : Expression)
  /-- What a group has taken. -/
  | again (number : Nat)
  | sequence (first second : Expression)
  | either (first second : Expression)
  | repeated (least : Nat) (most : Option Nat) (inner : Expression)
  /-- As few turns as possible come first. -/
  | lazily (least : Nat) (most : Option Nat) (inner : Expression)
  /-- What fits, or does not fit, behind or before a place, without being taken. -/
  | beside (isBefore isNegated : Bool) (inner : Expression)
  /-- What has been taken so far is not counted as found. -/
  | restart
deriving Repr, DecidableEq, Inhabited

/-- Why a text is no regular expression. -/
inductive ExpressionFault where
  | unmatchedParenthesis
  | unmatchedClosing
  | unmatchedBracket
  | unmatchedBrace
  | badCount
  | tooBig
  | trailingBackslash
  | badReference
  | badRepeat
  | badClass
  | badRange
  | badSymbol
  | nothingListed
  /-- The name of a set of characters stands in single brackets. -/
  | looseClass
deriving Repr, DecidableEq

/-- What is said of a text that is no regular expression. -/
def ExpressionFault.message : ExpressionFault → String
  | unmatchedParenthesis => "Unmatched ( or \\("
  | unmatchedClosing => "Unmatched ) or \\)"
  | unmatchedBracket => "Unmatched [, [^, [:, [., or [="
  | unmatchedBrace => "Unmatched \\\x7b"
  | badCount => "Invalid content of \\\x7b\\\x7d"
  | tooBig => "Regular expression too big"
  | trailingBackslash => "Trailing backslash"
  | badReference => "Invalid back reference"
  | badRepeat => "Invalid preceding regular expression"
  | badClass => "Invalid character class name"
  | badRange => "Invalid range end"
  | badSymbol => "Invalid collation character"
  | nothingListed => "Invalid regular expression"
  | looseClass => "character class syntax is [[:space:]], not [:space:]"

/-- What is said of a text that is no regular expression in the form with letters. -/
def ExpressionFault.letteredMessage : ExpressionFault → String
  | unmatchedParenthesis => "missing closing parenthesis"
  | unmatchedClosing => "unmatched closing parenthesis"
  | unmatchedBracket => "missing terminating ] for character class"
  | nothingListed => "missing terminating ] for character class"
  | trailingBackslash => "\\ at end of pattern"
  | badReference => "reference to non-existent subpattern"
  | badRepeat => "quantifier does not follow a repeatable item"
  | badClass => "unknown POSIX class name"
  | badRange => "range out of order in character class"
  | badCount => "numbers out of order in \x7b\x7d quantifier"
  | tooBig => "number too big in \x7b\x7d quantifier"
  | fault => fault.message

/-- A form in which expressions are written. -/
inductive ExpressionForm where
  | basic
  | extended
  /-- The basic form in which a sign for counts needs something in front. -/
  | strictBasic
  /-- The extended form in which a sign for repeats needs something in front. -/
  | strictExtended
  /-- The extended form in which there are no counts, and more characters stand for others behind
  backslashes. -/
  | countless
  /-- The extended form in which digits go by a letter behind a backslash. -/
  | lettered
deriving Repr, DecidableEq

/-- Whether the signs for groups and choices stand for themselves. -/
def ExpressionForm.isExtended (form : ExpressionForm) : Bool :=
  form != .basic && form != .strictBasic

namespace Expression

/-! ## Reading -/

/-- A sign of a written expression. -/
inductive Sign where
  | opening
  | closing
  | choice
  | countStart
  | star
  | plus
  | question
  | caret
  | dollar
  | dot
  | bracket
  /-- A backslash in front of a character that has no meaning of its own in this form. -/
  | escaped (c : Char)
  | plain (c : Char)
deriving Repr, DecidableEq

/-- The sign of a character that stands for itself in the basic form behind a backslash, and in the
others without. -/
def structural? (form : ExpressionForm) : Char → Option Sign
  | '(' => some .opening
  | ')' => some .closing
  | '|' => some .choice
  | '\x7b' => if form == .countless then none else some .countStart
  | '+' => some .plus
  | '?' => some .question
  | _ => none

/-- The sign at the front of a text, and how many characters it takes. -/
def sign? (form : ExpressionForm) : List Char → Option (Sign × Nat)
  | [] => none
  | '\\' :: c :: _ =>
    match structural? form c, form.isExtended with
    | some sign, false => some (sign, 2)
    | _, _ => some (.escaped c, 2)
  | '\\' :: [] => some (.escaped '\\', 1)
  | c :: _ =>
    match c with
    | '*' => some (.star, 1)
    | '^' => some (.caret, 1)
    | '$' => some (.dollar, 1)
    | '.' => some (.dot, 1)
    | '[' => some (.bracket, 1)
    | _ =>
      match structural? form c, form.isExtended with
      | some sign, true => some (sign, 1)
      | _, _ => some (.plain c, 1)

/-- The class of the characters of words, or of all others. -/
def wordClass (isNegated : Bool) : CharClass :=
  ⟨isNegated, [.wordParts]⟩

/-- The class of gaps, or of all other characters. -/
def gapClass (isNegated : Bool) : CharClass :=
  ⟨isNegated, [.gaps]⟩

/-- What a character stands for behind a backslash. -/
def ofEscaped (form : ExpressionForm) (c : Char) : Expression :=
  if form == .countless then
    match c with
    | 'n' => exactly '\n'
    | 't' => exactly '\t'
    | 'r' => exactly '\r'
    | 'f' => exactly '\x0c'
    | 'v' => exactly '\x0b'
    | 'a' => exactly '\x07'
    | 'b' => exactly '\x08'
    | _ => exactly c
  else
    match form, c with
    | .lettered, 'd' => oneOf ⟨false, [.digits]⟩
    | .lettered, 'D' => oneOf ⟨true, [.digits]⟩
    | .lettered, 'h' => oneOf ⟨false, [.blanks]⟩
    | .lettered, 'K' => restart
    | .lettered, 'n' => exactly '\n'
    | .lettered, 't' => exactly '\t'
    | _, 'w' => oneOf (wordClass false)
    | _, 'W' => oneOf (wordClass true)
    | _, 's' => oneOf (gapClass false)
    | _, 'S' => oneOf (gapClass true)
    | _, 'b' => wordEdge true
    | _, 'B' => wordEdge false
    | _, '<' => wordStart
    | _, '>' => wordEnd
    | _, '\x60' => textStart
    | _, '\'' => textEnd
    | _, _ => if '1' ≤ c && c ≤ '9' then again (c.toNat - 48) else exactly c

/-- Whether an expression stands for a place and takes no characters. -/
def isAnchor : Expression → Bool
  | lineStart | lineEnd | textStart | textEnd => true
  | wordEdge _ | wordStart | wordEnd => true
  | _ => false

/-- The number that digits give. -/
def numberOf (digits : List Char) : Nat :=
  digits.foldl (fun n c => 10 * n + (c.toNat - 48)) 0

/-- How often something may be asked for. -/
def countLimit : Nat :=
  32767

/-- The text up to the brace that closes counts, and the text behind it. -/
def upToBrace? (form : ExpressionForm) : List Char → Option (List Char × List Char)
  | [] => none
  | '\x7d' :: rest =>
    if form.isExtended then some ([], rest)
    else (upToBrace? form rest).map fun (text, rest) => ('\x7d' :: text, rest)
  | '\\' :: '\x7d' :: rest =>
    if form.isExtended then some (['\\'], rest) else some ([], rest)
  | c :: rest => (upToBrace? form rest).map fun (text, rest) => (c :: text, rest)

/-- The counts between braces. -/
def countsOf (s : List Char) : Except ExpressionFault (Nat × Option Nat) :=
  let low := s.takeWhile Char.isDigit
  let checked := fun (least : Nat) (most : Option Nat) =>
    if most.any (· < least) then .error .badCount
    else if countLimit < max least (most.getD 0) then .error .tooBig
    else .ok (least, most)
  match s.drop low.length with
  | [] => if low.isEmpty then .error .badCount else checked (numberOf low) (some (numberOf low))
  | ',' :: high =>
    if !high.all Char.isDigit then .error .badCount
    else checked (numberOf low) (if high.isEmpty then none else some (numberOf high))
  | _ => .error .badCount

/-- The counts behind the brace that opens them, and the text behind the one that closes them; there
may be none if the brace can stand for itself. -/
def takeCounts? (form : ExpressionForm) (s : List Char) :
    Except ExpressionFault (Option ((Nat × Option Nat) × List Char)) :=
  let isLenient := form == .extended || form == .lettered
  match upToBrace? form s with
  | none => if isLenient then .ok none else .error .unmatchedBrace
  | some (text, rest) =>
    match countsOf text with
    | .ok counts => .ok (some (counts, rest))
    | .error fault =>
      if isLenient && !(text.all fun c => c.isDigit || c == ',') then .ok none else .error fault

/-! ### Brackets -/

/-- The text up to a sign and a closing bracket, and the text behind them. -/
def upToSign? (sign : Char) : List Char → Option (List Char × List Char)
  | [] => none
  | c :: rest =>
    if c == sign && rest.head? == some ']' then some ([], rest.drop 1)
    else (upToSign? sign rest).map fun (text, rest) => (c :: text, rest)

/-- What a character stands for behind a backslash in brackets, in the forms where it has a
meaning. -/
def listedEscaped (form : ExpressionForm) (c : Char) : CharSet :=
  match ofEscaped form c with
  | oneOf ⟨false, [set]⟩ => set
  | exactly d => .range d d
  | _ => .range c c

/-- What stands at the front of a text in brackets, and the text behind it. -/
def takeListed (form : ExpressionForm) (s : List Char) :
    Except ExpressionFault (CharSet × List Char) :=
  match s with
  | [] => .error .unmatchedBracket
  | '\\' :: c :: rest =>
    if form == .lettered || form == .countless then .ok (listedEscaped form c, rest)
    else .ok (.range '\\' '\\', c :: rest)
  | '[' :: ':' :: rest =>
    match upToSign? ':' rest with
    | none => .error .unmatchedBracket
    | some (name, rest) =>
      match CharSet.names.lookup (String.ofList name) with
      | none => .error .badClass
      | some set => .ok (set, rest)
  | '[' :: c :: rest =>
    if c == '.' || c == '=' then
      match upToSign? c rest with
      | some ([one], rest) => .ok (.range one one, rest)
      | some _ => .error .badSymbol
      | none => .error .unmatchedBracket
    else .ok (.range '[' '[', c :: rest)
  | c :: rest => .ok (.range c c, rest)

/-- The sets that are listed up to the closing bracket, and the text behind it.  A closing bracket
that comes first stands for itself, and so does a dash that comes first or last. -/
def takeSets (form : ExpressionForm) : Nat → (isFirst : Bool) → List Char →
    Except ExpressionFault (List CharSet × List Char)
  | 0, _, _ => .error .unmatchedBracket
  | fuel + 1, isFirst, s =>
    match s, isFirst with
    | [], true => .error .nothingListed
    | ']' :: rest, false => .ok ([], rest)
    | _, _ =>
      if !isFirst && s.head? == some '-' && (s.drop 1).head? != some ']' then
        .error (if (s.drop 1).isEmpty then .unmatchedBracket else .badRange)
      else do
        let (set, rest) ← takeListed form s
        match rest with
        | '-' :: last :: _ =>
          if last == ']' then
            let (sets, rest) ← takeSets form fuel false rest
            return (set :: sets, rest)
          else
            let (upper, rest) ← takeListed form (rest.drop 1)
            match set, upper with
            | .range low _, .range _ high =>
              if high < low then .error .badRange
              else
                let (sets, rest) ← takeSets form fuel false rest
                return (.range low high :: sets, rest)
            | _, _ => .error .badRange
        | _ =>
          let (sets, rest) ← takeSets form fuel false rest
          return (set :: sets, rest)

/-- Whether sets look like the name of one between colons. -/
def isLooseClass (sets : List CharSet) : Bool :=
  let colon := CharSet.range ':' ':'
  sets.head? == some colon && sets.getLast? == some colon && sets.any (· != colon) &&
    sets.all fun set => match set with
      | .range low high => low == high
      | _ => false

/-! ### Expressions -/

/-- What is read of an expression: how many groups have been opened, and the text behind it. -/
abbrev Taken :=
  Except ExpressionFault (Expression × Nat × List Char)

/-- What becomes of the expression in a group that is not numbered, by the characters in front of it
and their number. -/
def plainGroup? (s : List Char) : Option ((Expression → Expression) × Nat) :=
  match s with
  | ':' :: _ => some (id, 1)
  | '=' :: _ => some (beside false false, 1)
  | '!' :: _ => some (beside false true, 1)
  | '<' :: '=' :: _ => some (beside true false, 2)
  | '<' :: '!' :: _ => some (beside true true, 2)
  | _ => none

/-- Whether a dollar sign in front of a text stands for the end of a line: nothing else of its part
follows. -/
def isAtEndOfPart (form : ExpressionForm) (rest : List Char) : Bool :=
  match sign? form rest with
  | none => true
  | some (.closing, _) => true
  | some (.choice, _) => true
  | _ => false

mutual

/-- Takes expressions of which any may fit. -/
def takeChoice (form : ExpressionForm) : Nat → (depth groups : Nat) → List Char → Taken
  | 0, _, _, _ => .error .unmatchedParenthesis
  | fuel + 1, depth, groups, s => do
    let (first, groups, rest) ← takeSequence form fuel depth groups nothing true s
    match sign? form rest with
    | some (.choice, n) =>
      let (second, groups, rest) ← takeChoice form fuel depth groups (rest.drop n)
      return (either first second, groups, rest)
    | _ => return (first, groups, rest)

/-- Takes expressions that fit one after the other, behind some that have been taken. -/
def takeSequence (form : ExpressionForm) : Nat → (depth groups : Nat) → Expression →
    (isFirst : Bool) → List Char → Taken
  | 0, _, _, _, _, _ => .error .unmatchedParenthesis
  | fuel + 1, depth, groups, before, isFirst, s => do
    match sign? form s with
    | none => return (before, groups, s)
    | some (sign, n) =>
      let rest := s.drop n
      let goOn := fun (groups : Nat) (one : Expression) (rest : List Char) => do
        let (one, rest) ← takeRepeats form fuel one rest
        takeSequence form fuel depth groups (sequence before one) false rest
      let anchor := fun (one : Expression) =>
        takeSequence form fuel depth groups (sequence before one) true rest
      /- A sign for repeats with nothing in front of it. -/
      let loose := fun (c : Char) =>
        if !form.isExtended then goOn groups (exactly c) rest
        else if form == .strictExtended || form == .lettered then .error .badRepeat
        else takeSequence form fuel depth groups before isFirst rest
      match sign with
      | .choice => return (before, groups, s)
      | .closing =>
        if depth = 0 then
          if form == .extended then goOn groups (exactly ')') rest else .error .unmatchedClosing
        else return (before, groups, s)
      | .opening =>
        if form == .lettered && rest.head? == some '?' then
          match plainGroup? (rest.drop 1) with
          | none => .error .badRepeat
          | some (wrap, n) =>
            let (inner, groups, rest) ← takeChoice form fuel (depth + 1) groups (rest.drop (n + 1))
            match sign? form rest with
            | some (.closing, n) => goOn groups (wrap inner) (rest.drop n)
            | _ => .error .unmatchedParenthesis
        else
          let (inner, inside, rest) ← takeChoice form fuel (depth + 1) (groups + 1) rest
          match sign? form rest with
          | some (.closing, n) => goOn inside (group (groups + 1) inner) (rest.drop n)
          | _ => .error .unmatchedParenthesis
      | .caret =>
        if form.isExtended || isFirst then anchor lineStart else goOn groups (exactly '^') rest
      | .dollar =>
        if form.isExtended || isAtEndOfPart form rest then anchor lineEnd
        else goOn groups (exactly '$') rest
      | .dot => goOn groups anyOne rest
      | .bracket =>
        let isNegated := rest.head? == some '^'
        let (sets, rest) ← takeSets form fuel true (if isNegated then rest.drop 1 else rest)
        if isLooseClass sets && form != .countless then .error .looseClass
        else goOn groups (oneOf ⟨isNegated, sets⟩) rest
      | .star => loose '*'
      | .plus => loose '+'
      | .question => loose '?'
      | .countStart =>
        if form == .strictBasic || form == .strictExtended then .error .badRepeat
        else if form == .basic || form == .lettered then goOn groups (exactly '\x7b') rest
        else
          match ← takeCounts? form rest with
          | some (_, rest) => takeSequence form fuel depth groups before isFirst rest
          | none => goOn groups (exactly '\x7b') rest
      | .escaped c =>
        if n = 1 then .error .trailingBackslash
        else
          match ofEscaped form c with
          | again k => if groups < k then .error .badReference else goOn groups (again k) rest
          | one => if one.isAnchor then anchor one else goOn groups one rest
      | .plain c => goOn groups (exactly c) rest

/-- Takes the counts behind an expression. -/
def takeRepeats (form : ExpressionForm) : Nat → Expression → List Char →
    Except ExpressionFault (Expression × List Char)
  | 0, one, s => .ok (one, s)
  | fuel + 1, one, s =>
    let goOn := fun (least : Nat) (most : Option Nat) (rest : List Char) =>
      if form == .lettered && rest.head? == some '?' then
        takeRepeats form fuel (lazily least most one) (rest.drop 1)
      else takeRepeats form fuel (repeated least most one) rest
    match sign? form s with
    | some (.star, n) => goOn 0 none (s.drop n)
    | some (.plus, n) => goOn 1 none (s.drop n)
    | some (.question, n) => goOn 0 (some 1) (s.drop n)
    | some (.countStart, n) => do
      match ← takeCounts? form (s.drop n) with
      | some ((least, most), rest) => goOn least most rest
      | none => return (one, s)
    | _ => .ok (one, s)

end

/-- The expression that a text is. -/
def read (form : ExpressionForm) (s : List Char) : Except ExpressionFault Expression := do
  let (expression, _, _) ← takeChoice form (4 * s.length + 8) 0 0 s
  return expression

/-- The signs for repeats in a text that have nothing in front of them. -/
def looseRepeats (form : ExpressionForm) : (fuel : Nat) → (isFirst : Bool) → List Char →
    List String
  | 0, _, _ => []
  | fuel + 1, isFirst, s =>
    match sign? form s with
    | none => []
    | some (sign, n) =>
      let rest := s.drop n
      let others := fun (isFirst : Bool) => looseRepeats form fuel isFirst rest
      let loose := fun (name : String) => if isFirst then name :: others true else others false
      match sign with
      | .star => loose "*"
      | .plus => loose "+"
      | .question => loose "?"
      | .countStart =>
        match takeCounts? form rest with
        | .ok (some (_, rest)) =>
          if isFirst then "\x7b...\x7d" :: looseRepeats form fuel true rest
          else looseRepeats form fuel false rest
        | _ => others false
      | .opening | .choice | .caret => others true
      | .bracket =>
        let isNegated := rest.head? == some '^'
        match takeSets form fuel true (if isNegated then rest.drop 1 else rest) with
        | .ok (_, rest) => looseRepeats form fuel false rest
        | .error _ => []
      | _ => others false

/-- The expression for a text itself. -/
def ofText (s : List Char) : Expression :=
  s.foldr (fun c rest => sequence (exactly c) rest) nothing

/-- How many groups an expression has. -/
def groupCount : Expression → Nat
  | group _ inner => inner.groupCount + 1
  | sequence first second => first.groupCount + second.groupCount
  | either first second => first.groupCount + second.groupCount
  | repeated _ _ inner => inner.groupCount
  | lazily _ _ inner => inner.groupCount
  | beside _ _ inner => inner.groupCount
  | _ => 0

/-! ## Fitting -/

/-- A place in a text, and what groups have taken before it, the latest first. -/
structure Progress where
  place : Nat
  groups : List (Nat × Nat × Nat) := []
deriving Repr, DecidableEq

/-- A text to be searched. -/
structure Subject where
  chars : Array Char
  ignoresCase : Bool := false
  /-- Whether line ends part the text into lines of their own. -/
  isByLine : Bool := false
  /-- Whether the end that comes first counts, and not the last one. -/
  isFirstChoice : Bool := false

namespace Subject

/-- The character that stands for a character in both of its cases. -/
def folded (c : Char) : Char :=
  if c.toNat < 128 then c.toLower else lowerChar c

/-- Whether two characters count as the same. -/
def agree (s : Subject) (a b : Char) : Bool :=
  a == b || (s.ignoresCase && folded a == folded b)

/-- Whether a character belongs to a class. -/
def holds (s : Subject) (class_ : CharClass) (c : Char) : Bool :=
  let isListed := class_.sets.any fun set => set.holds c ||
    (s.ignoresCase && (set.holds (lowerChar c) || set.holds (upperChar c)))
  isListed != class_.isNegated && !(s.isByLine && class_.isNegated && c == '\n')

/-- Whether a character of a word stands at a place. -/
def isWordAt (s : Subject) (place : Nat) : Bool :=
  s.chars[place]?.any isWordChar

/-- Whether a character of a word stands before a place. -/
def isWordBefore (s : Subject) (place : Nat) : Bool :=
  0 < place && s.isWordAt (place - 1)

/-- Whether a line begins at a place. -/
def isLineStart (s : Subject) (place : Nat) : Bool :=
  place = 0 || (s.isByLine && s.chars[place - 1]? == some '\n')

/-- Whether a line ends at a place. -/
def isLineEnd (s : Subject) (place : Nat) : Bool :=
  place = s.chars.size || (s.isByLine && s.chars[place]? == some '\n')

end Subject

/-- Each place only once: the first progress to it counts. -/
def onePerPlace (ps : List Progress) : List Progress :=
  (ps.foldl (fun kept p => if kept.any (·.place == p.place) then kept else p :: kept) []).reverse

/-- The progress that some turns of a step make, the latest turn first; `seen` holds the places that
have been reached already. -/
def turns (step : Progress → List Progress) : Nat → (least : Nat) → (most : Option Nat) →
    (seen : List Nat) → List Progress → List Progress
  | 0, _, _, _, _ => []
  | fuel + 1, least, most, seen, current =>
    let own := if least = 0 then current else []
    if current.isEmpty || most == some 0 then own
    else
      let next := onePerPlace (current.flatMap step)
      let fresh := if least = 0 then next.filter fun p => !seen.contains p.place else next
      turns step fuel (least - 1) (most.map (· - 1)) (seen ++ fresh.map (·.place)) fresh ++ own

/-- The places where an expression can end that begins at a place. -/
def ends (s : Subject) : Expression → Progress → List Progress
  | nothing, p => [p]
  | exactly c, p => if s.chars[p.place]?.any (s.agree c) then [{ p with place := p.place + 1 }] else []
  | anyOne, p =>
    if s.chars[p.place]?.any fun c => !(s.isByLine && c == '\n') then
      [{ p with place := p.place + 1 }] else []
  | oneOf class_, p =>
    if s.chars[p.place]?.any (s.holds class_) then [{ p with place := p.place + 1 }] else []
  | lineStart, p => if s.isLineStart p.place then [p] else []
  | lineEnd, p => if s.isLineEnd p.place then [p] else []
  | textStart, p => if p.place = 0 then [p] else []
  | textEnd, p => if p.place = s.chars.size then [p] else []
  | wordEdge isEdge, p =>
    if (s.isWordBefore p.place != s.isWordAt p.place) == isEdge then [p] else []
  | wordStart, p => if !s.isWordBefore p.place && s.isWordAt p.place then [p] else []
  | wordEnd, p => if s.isWordBefore p.place && !s.isWordAt p.place then [p] else []
  | clearBefore, p => if s.isWordBefore p.place then [] else [p]
  | clearBehind, p => if s.isWordAt p.place then [] else [p]
  | group number inner, p =>
    (ends s inner p).map fun q => { q with groups := (number, p.place, q.place) :: q.groups }
  | again number, p =>
    match p.groups.lookup number with
    | none => []
    | some (first, last) =>
      let taken := (s.chars.extract first last).toList
      let there := (s.chars.extract p.place (p.place + taken.length)).toList
      if taken.length == there.length && (taken.zip there).all fun (a, b) => s.agree a b then
        [{ p with place := p.place + taken.length }]
      else []
  | sequence first second, p => onePerPlace ((ends s first p).flatMap (ends s second))
  | either first second, p => onePerPlace (ends s first p ++ ends s second p)
  | repeated least most inner, p =>
    onePerPlace (turns (ends s inner) (least + s.chars.size + 2) least most [p.place] [p])
  | lazily least most inner, p =>
    onePerPlace (turns (ends s inner) (least + s.chars.size + 2) least most [p.place] [p]).reverse
  | beside isBefore isNegated inner, p =>
    let fits := if isBefore then
        (List.range (p.place + 1)).any fun start =>
          (ends s inner { p with place := start }).any (·.place == p.place)
      else !(ends s inner p).isEmpty
    if fits != isNegated then [p] else []
  | restart, p => [{ p with groups := (0, p.place, p.place) :: p.groups }]

/-- The progress of the longest fit at a place, or of the first one. -/
def longestAt? (s : Subject) (e : Expression) (place : Nat) : Option Progress :=
  (ends s e { place }).foldl (fun best p =>
    match best with
    | none => some p
    | some b => if b.place < p.place && !s.isFirstChoice then some p else best) none

/-- A part of a text that an expression fits, with what its groups have taken. -/
structure Found where
  first : Nat
  last : Nat
  groups : List (Nat × Nat × Nat)
deriving Repr, DecidableEq

/-- The first part of a text, from a place on, that an expression fits. -/
def find? (s : Subject) (e : Expression) (start : Nat) : Option Found :=
  (List.range' start (s.chars.size + 1 - start)).findSome? fun place =>
    (e.longestAt? s place).map fun p => ⟨((p.groups.lookup 0).map (·.1)).getD place, p.place, p.groups⟩

/-- All parts of a text that an expression fits, none reaching into another. -/
def findAllFrom (s : Subject) (e : Expression) : Nat → (start : Nat) → (end_ : Option Nat) → List Found
  | 0, _, _ => []
  | fuel + 1, start, end_ =>
    if s.chars.size < start then []
    else
      match e.find? s start with
      | none => []
      | some f =>
        if f.first == f.last && end_ == some f.first then findAllFrom s e fuel (f.first + 1) end_
        else f :: findAllFrom s e fuel (if f.first == f.last then f.last + 1 else f.last) (some f.last)

/-- All parts of a text that an expression fits; an empty part does not follow right behind
another. -/
def findAll (s : Subject) (e : Expression) : List Found :=
  findAllFrom s e (2 * s.chars.size + 4) 0 none

end Expression

end ProjectCheck.Shell
