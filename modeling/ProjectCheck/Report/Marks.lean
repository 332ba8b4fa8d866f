import ProjectCheck.Number.Reading
import ProjectCheck.Report.Style
import ProjectCheck.Text.Class
import ProjectCheck.Text.Quoted
import ProjectCheck.Text.Word

/-!
# Literals

The parameters of a mark with an action are literals: numbers, perhaps with signs, quoted texts, the
words for nothing and for the truth values, and tuples, lists, sets and mappings of literals.
`isLiteral` tells whether a text is one; what it stands for is of no account.
-/

namespace ProjectCheck.Report

open ProjectCheck.Number ProjectCheck.Text

/-- Drops the blanks at the front. -/
def skipGaps (s : List Char) : List Char :=
  s.dropWhile fun c => c == ' ' || c == '\t' || c == '\n' || c == '\r' || c == '\x0c'

/-- The rest of a quoted text behind its opening quote. -/
def afterQuote? (quote : Char) : List Char → Option (List Char)
  | [] => none
  | '\\' :: _ :: rest => afterQuote? quote rest
  | c :: rest => if c == quote then some rest else if c == '\n' then none else afterQuote? quote rest

/-- The rest behind digits with single underscores between them. -/
def afterDigits (isDigit : Char → Bool) : List Char → List Char
  | [] => []
  | c :: rest =>
    if !isDigit c then c :: rest
    else
      match rest with
      | '_' :: more => if more.head?.any isDigit then afterDigits isDigit more else '_' :: more
      | rest => afterDigits isDigit rest

/-- The rest behind a number without a sign. -/
def afterNumber? (s : List Char) : Option (List Char) :=
  let isOctal := fun (c : Char) => '0' ≤ c && c ≤ '7'
  let isHex := fun (c : Char) => (hexValue? c).isSome
  let based := fun (isDigit : Char → Bool) (digits : List Char) =>
    if digits.head?.any isDigit then some (afterDigits isDigit digits) else none
  match s with
  | '0' :: 'x' :: digits => based isHex digits
  | '0' :: 'o' :: digits => based isOctal digits
  | '0' :: 'b' :: digits => based (fun c => c == '0' || c == '1') digits
  | _ =>
    let afterWhole := afterDigits isAsciiDigit s
    let whole := s.take (s.length - afterWhole.length)
    let (pointed, rest) := match afterWhole with
      | '.' :: rest => (true, afterDigits isAsciiDigit rest)
      | rest => (false, rest)
    let hasDigits := !whole.isEmpty || rest.length + 1 < afterWhole.length
    let rest' := (takeExponent rest).2
    let isPlain := !pointed && rest'.length == rest.length && rest'.head? != some 'j'
    let padded := whole.head? == some '0' && whole.any fun c => '1' ≤ c && c ≤ '9'
    if !hasDigits || (isPlain && padded) then none
    else some (if rest'.head? == some 'j' then rest'.drop 1 else rest')

/-- The words that are literals. -/
def literalWords : List String :=
  ["None", "True", "False"]

/-- The brackets that are literals when other literals stand between them. -/
def closingOf? : Char → Option Char
  | '(' => some ')'
  | '[' => some ']'
  | '\x7b' => some '\x7d'
  | _ => none

mutual

/-- The rest behind a literal. -/
def afterLiteral? : Nat → List Char → Option (List Char)
  | 0, _ => none
  | fuel + 1, s =>
    match skipGaps s with
    | [] => none
    | c :: rest =>
      match closingOf? c with
      | some closing => afterItems? fuel closing (skipGaps rest)
      | none =>
        if c == '\'' || c == '"' then afterQuote? c rest
        else if (c == 'b' || c == 'u') && (rest.head? == some '\'' || rest.head? == some '"') then
          (rest.head?).bind fun quote => afterQuote? quote (rest.drop 1)
        else if c == '-' || c == '+' then afterNumber? (skipGaps rest)
        else
          match literalWords.findSome? fun word => afterPrefix? word.toList (c :: rest) with
          | some after => if after.head?.any Char.isAlphanum then none else some after
          | none => afterNumber? (c :: rest)

/-- The rest behind the items up to a closing bracket. -/
def afterItems? : Nat → Char → List Char → Option (List Char)
  | 0, _, _ => none
  | fuel + 1, closing, s =>
    if s.head? == some closing then some (s.drop 1)
    else do
      let rest := skipGaps (← afterLiteral? fuel s)
      let rest ← match closing, rest with
        | '\x7d', ':' :: more => (afterLiteral? fuel more).map skipGaps
        | _, _ => some rest
      match rest with
      | ',' :: more => afterItems? fuel closing (skipGaps more)
      | d :: more => if d == closing then some more else none
      | [] => none

end

/-- The rest behind literals with commas between them and perhaps one behind them. -/
def afterLiterals? : Nat → List Char → Option (List Char)
  | 0, _ => none
  | fuel + 1, s => do
    match skipGaps (← afterLiteral? (s.length + 1) s) with
    | ',' :: more =>
      let more := skipGaps more
      if more.isEmpty then some [] else afterLiterals? fuel more
    | rest => some rest

/-- Whether a text is a literal, or several with commas between them. -/
def isLiteral (s : List Char) : Bool :=
  afterLiterals? (s.length + 1) s == some []

/-!
## Style marks

A marked text holds style marks between square brackets.  A mark begins with a small letter or one
of `#`, `@` and `/`, holds no further opening bracket and ends at the first closing one; every other
bracket is text.  A backslash in front of a mark makes it text, and two of them stand for one.

A mark that begins with a slash closes the latest open mark of its name, or the latest open mark if
no name follows.  To close a mark that is not open is a fault: then the text cannot be shown.  The
same goes for a mark with an action whose parameters are no literals, once it is closed.
-/

open ProjectCheck.Text

/-- A part of a marked text. -/
inductive MarkedPart where
  | text (s : List Char)
  | mark (content : List Char)
deriving Repr, DecidableEq

/-- Whether a mark may begin with a character. -/
def beginsMark (c : Char) : Bool :=
  ('a' ≤ c && c ≤ 'z') || c == '#' || c == '@' || c == '/'

/-- The content of a mark up to its closing bracket, and what follows. -/
def markContent? : List Char → Option (List Char × List Char)
  | [] => none
  | c :: rest =>
    if c == ']' then some ([], rest)
    else if c == '[' then none
    else (markContent? rest).map fun found => (c :: found.1, found.2)

/-- The mark that a text starts with, and what follows it. -/
def markAt? : List Char → Option (List Char × List Char)
  | '[' :: c :: rest =>
    if beginsMark c then (markContent? rest).map fun found => (c :: found.1, found.2) else none
  | _ => none

theorem length_lt_of_markContent? {s content after : List Char}
    (h : markContent? s = some (content, after)) : after.length < s.length := by
  induction s generalizing content after with
  | nil => simp [markContent?] at h
  | cons c rest ih =>
    simp only [markContent?] at h
    split at h
    · simp only [Option.some.injEq, Prod.mk.injEq] at h
      simp [← h.2]
    · split at h
      · simp at h
      · obtain ⟨found, hfound, hpair⟩ := Option.map_eq_some_iff.1 h
        simp only [Prod.mk.injEq] at hpair
        have := ih hfound
        simp only [List.length_cons, ← hpair.2]
        omega

theorem length_lt_of_markAt? {s content after : List Char}
    (h : markAt? s = some (content, after)) : after.length < s.length := by
  unfold markAt? at h
  split at h
  · split at h
    · obtain ⟨found, hfound, hpair⟩ := Option.map_eq_some_iff.1 h
      simp only [Prod.mk.injEq] at hpair
      have := length_lt_of_markContent? hfound
      simp only [List.length_cons, ← hpair.2]
      omega
    · simp at h
  · simp at h

/-- A text between marks, in which a bracket may have a backslash in front. -/
def plainPart : List Char → List Char
  | '\\' :: '[' :: rest => '[' :: plainPart rest
  | c :: rest => c :: plainPart rest
  | [] => []

/-- How many backslashes a text starts with. -/
def slashCount (s : List Char) : Nat :=
  (s.takeWhile (· == '\\')).length

/-- The parts of a marked text, the text before them being `plain` in reverse. -/
def partsAfter (plain : List Char) : List Char → List MarkedPart
  | [] => [.text (plainPart plain.reverse)]
  | c :: rest =>
    let slashes := slashCount (c :: rest)
    match _h : markAt? ((c :: rest).drop slashes) with
    | none => partsAfter (c :: plain) rest
    | some (content, after) =>
      let before := plainPart plain.reverse ++ List.replicate (slashes / 2) '\\'
      if slashes % 2 = 1 then
        .text (before ++ '[' :: content ++ [']']) :: partsAfter [] after
      else .text before :: .mark content :: partsAfter [] after
termination_by s => s.length
decreasing_by
  · simp
  all_goals
    have := length_lt_of_markAt? _h
    simp only [List.length_drop] at this
    omega

/-- An open mark: its name, and what follows its equals sign. -/
structure OpenMark where
  name : List Char
  parameters : List Char := []
deriving Repr, DecidableEq

/-- The name of a mark, without what follows its equals sign. -/
def markName (content : List Char) : List Char :=
  content.takeWhile (· != '=')

/-- The mark that some content opens. -/
def OpenMark.ofContent (content : List Char) : OpenMark :=
  let name := markName content
  { name := normalName name, parameters := content.drop (name.length + 1) }

/-- The parameters of an action that is spelled as a name with parentheses behind it, or as a name
alone. -/
def actionParameters (action : List Char) : List Char :=
  let rest := action.dropWhile fun c => isWordChar c || c == '.'
  if rest.isEmpty then ['(', ')']
  else if rest.head? == some '(' && rest.getLast? == some ')' && !rest.contains '\n' then rest
  else action

/-- Whether an open mark may be closed. -/
def OpenMark.isClosable (mark : OpenMark) : Bool :=
  mark.name.head? != some '@' || mark.parameters.isEmpty ||
    isLiteral (actionParameters (trim mark.parameters))

/-- The marks that stay open when the latest of a name is closed, or the latest of all if the name is
empty; nothing if that cannot be closed. -/
def closeMark? (name : List Char) (opened : List OpenMark) : Option (List OpenMark) :=
  let isMeant := fun (mark : OpenMark) => name.isEmpty || mark.name == normalName name
  (opened.find? isMeant).bind fun mark =>
    if mark.isClosable then some (opened.eraseP isMeant) else none

/-- The text that parts show when some marks are open, the latest first; nothing if a mark is closed
that cannot be closed. -/
def shownParts? : List OpenMark → List MarkedPart → Option (List Char)
  | _, [] => some []
  | opened, .text s :: rest => (shownParts? opened rest).map (s ++ ·)
  | opened, .mark ('/' :: content) :: rest =>
    (closeMark? (trim (markName content)) opened).bind fun others => shownParts? others rest
  | opened, .mark content :: rest => shownParts? (.ofContent content :: opened) rest

/-- The text that a marked text shows; nothing if it closes a mark that cannot be closed. -/
def shownText? (marked : String) : Option String :=
  (shownParts? [] (partsAfter [] marked.toList)).map String.ofList

end ProjectCheck.Report
