import ProjectCheck.Text.Cut

/-!
# Tokens of a shell command

How a shell takes a command apart: blanks separate words, quotes and backslashes take the meaning
from characters, and operators end a word without a blank.

A word is a list of glyphs, which remember whether a character was quoted: only what stands bare can
be a reserved word, an assignment or the number of a stream.  What stands behind a dollar sign or
between backquotes is kept as it is written, since it gets its value only when the command is run;
`extent?` says how far it goes.

The lines of a document that is written below a command are taken out of the text as soon as the
document is announced, and stand as one word behind the operator that announces it.
-/

namespace ProjectCheck.Shell

open ProjectCheck.Text

/-- A piece of a word. -/
inductive Glyph where
  | bare (c : Char)
  | quoted (c : Char)
  /-- Quotes are opened here; nothing may stand in them. -/
  | quote
  /-- What a text stands for that is written behind a dollar sign.  It begins with a parenthesis if
  it is a command, and with two if it is a calculation; it begins with a brace if it has one, with a
  backquote if it is a command in backquotes, and else it is the name of a variable. -/
  | expansion (text : List Char) (isQuoted : Bool)
deriving Repr, DecidableEq

/-- A word of a command. -/
abbrev Word := List Glyph

namespace Word

/-- The word of bare characters. -/
def ofBare (s : List Char) : Word :=
  s.map .bare

/-- The characters of a word in which nothing is to be replaced. -/
def literal? : Word → Option (List Char)
  | [] => some []
  | .bare c :: rest => (literal? rest).map (c :: ·)
  | .quoted c :: rest => (literal? rest).map (c :: ·)
  | .quote :: rest => literal? rest
  | .expansion .. :: _ => none

/-- The characters of a word that is bare from end to end. -/
def bare? : Word → Option (List Char)
  | [] => some []
  | .bare c :: rest => (bare? rest).map (c :: ·)
  | _ :: _ => none

end Word

/-- How a stream is redirected. -/
inductive Direction where
  | input
  | output
  /-- To a file even if writing over files is forbidden. -/
  | overwrite
  | append
  | both
  /-- To where another stream to print on goes. -/
  | duplicate
  /-- From where another stream to read comes. -/
  | duplicateInput
  /-- From a text that is written below the command. -/
  | document
deriving Repr, DecidableEq

/-- What separates or joins commands. -/
inductive Operator where
  | newline
  | semicolon
  /-- The end of a case. -/
  | caseEnd
  | ampersand
  | pipe
  | andThen
  | orElse
  | opening
  | closing
  | redirect (stream : Option Nat) (direction : Direction)
deriving Repr, DecidableEq

/-- What a text lacks that ends too early. -/
inductive Lack where
  | quotation
  | brace
  | parenthesis
  | twoParentheses
  | backquote
deriving Repr, DecidableEq

/-- A token. -/
inductive Token where
  | word (w : Word)
  | operator (o : Operator)
  /-- The text ends before something that was opened is closed. -/
  | lack (what : Lack)
deriving Repr, DecidableEq

/-! ## What stands behind a dollar sign -/

/-- What may stand open around a character. -/
inductive Enclosure where
  | brace (isQuoted : Bool)
  | parenthesis
  | single
  | double
  | backquote
deriving Repr, DecidableEq

/-- The sign that opens and closes a command in a word. -/
def backquote : Char :=
  '\x60'

/-- Whether single quotes open a quotation in an enclosure. -/
def Enclosure.knowsSingle : Enclosure → Bool
  | brace isQuoted => !isQuoted
  | parenthesis => true
  | _ => false

/-- What a character closes or opens in an enclosure: the enclosures after it. -/
def enclosuresAfter (c : Char) (top : Enclosure) (outer : List Enclosure) : List Enclosure :=
  let all := top :: outer
  if c == '"' then if top = .double then outer else .double :: all
  else if c == '\'' && top.knowsSingle then .single :: all
  else if c == backquote then .backquote :: all
  else if top = .parenthesis && c == '(' then .parenthesis :: all
  else if top = .parenthesis && c == ')' then outer
  else
    match top with
    | .brace _ => if c == '\x7d' then outer else all
    | _ => all

/-- How many characters stand up to the end of what is open, the ends included; nothing if the text
ends before. -/
def extent? : List Enclosure → List Char → Option Nat
  | [], _ => some 0
  | _ :: _, [] => none
  | .single :: outer, c :: rest =>
    (extent? (if c == '\'' then outer else .single :: outer) rest).map (· + 1)
  | top :: outer, '\\' :: _ :: rest => (extent? (top :: outer) rest).map (· + 2)
  | .backquote :: outer, c :: rest =>
    (extent? (if c == backquote then outer else .backquote :: outer) rest).map (· + 1)
  | top :: outer, '$' :: '(' :: rest =>
    (extent? (.parenthesis :: top :: outer) rest).map (· + 2)
  | top :: outer, '$' :: '\x7b' :: rest =>
    let isQuoted := top = .double || top = .brace true
    (extent? (.brace isQuoted :: top :: outer) rest).map (· + 2)
  | top :: outer, c :: rest => (extent? (enclosuresAfter c top outer) rest).map (· + 1)

/-- Whether a character can stand in the name of a variable. -/
def isNameChar (c : Char) : Bool :=
  c.isAlphanum || c == '_'

/-- Whether a text is the name of a variable. -/
def isName (s : List Char) : Bool :=
  s.all isNameChar && s.head?.any fun c => !c.isDigit

/-- The characters that are names of their own. -/
def namesOfOneChar : List Char :=
  "@*#?-$!".toList

/-- What stands behind a dollar sign, and how many characters it takes; nothing if the dollar sign
stands for itself. -/
def expansion? (isQuoted : Bool) : List Char → Option (Except Lack (List Char × Nat))
  | '(' :: rest => some <|
    match extent? [.parenthesis] rest with
    | some n => .ok ('(' :: rest.take (n - 1), n + 1)
    | none => .error (if rest.head? == some '(' then .twoParentheses else .parenthesis)
  | '\x7b' :: rest => some <|
    match extent? [.brace isQuoted] rest with
    | some n => .ok ('\x7b' :: rest.take (n - 1), n + 1)
    | none => .error .brace
  | c :: rest =>
    if namesOfOneChar.contains c || c.isDigit then some (.ok ([c], 1))
    else if isNameChar c then
      let name := (c :: rest).takeWhile isNameChar
      some (.ok (name, name.length))
    else none
  | [] => none

/-- Drops the backslashes that keep signs from their meaning between backquotes. -/
def unescapedInBackquotes (isQuoted : Bool) : List Char → List Char
  | [] => []
  | '\\' :: c :: rest =>
    if c == backquote || c == '$' || c == '\\' || (isQuoted && c == '"') then
      c :: unescapedInBackquotes isQuoted rest
    else '\\' :: c :: unescapedInBackquotes isQuoted rest
  | c :: rest => c :: unescapedInBackquotes isQuoted rest

/-- What stands behind a backquote, and how many characters it takes. -/
def backquoted (isQuoted : Bool) (s : List Char) : Except Lack (List Char × Nat) :=
  match extent? [.backquote] s with
  | some n => .ok (backquote :: unescapedInBackquotes isQuoted (s.take (n - 1)), n)
  | none => .error .backquote

/-! ## Parts of words -/

/-- Where quoted text stands. -/
inductive Quotation where
  /-- Between double quotes. -/
  | string
  /-- In a document below a command. -/
  | document
  /-- In braces that are themselves quoted. -/
  | inner
deriving DecidableEq

/-- Whether a backslash takes the meaning from a character in quoted text. -/
def Quotation.isEscapable (q : Quotation) (c : Char) : Bool :=
  c == '$' || c == '\\' || c == backquote || (c == '"' && q != .document) ||
    (c == '\x7d' && q == .inner)

/-- The glyphs of quoted text, up to the closing quote if it has one, and how many characters they
take. -/
def quotedGlyphs (q : Quotation) (s : List Char) : Except Lack (Word × Nat) :=
  match s with
  | [] => if q = .string then .error .quotation else .ok ([], 0)
  | c :: rest =>
    let goOn := fun (glyphs : Word) (n : Nat) => do
      let (others, m) ← quotedGlyphs q (rest.drop n)
      return (glyphs ++ others, m + n + 1)
    if c == '"' && q = .string then .ok ([], 1)
    else if c == '"' && q = .inner then goOn [] 0
    else if c == '\\' then
      match rest.head? with
      | some '\n' => goOn [] 1
      | some d => if q.isEscapable d then goOn [.quoted d] 1 else goOn [.quoted c] 0
      | none => goOn [.quoted c] 0
    else if c == '$' then
      match expansion? true rest with
      | some (.ok (text, n)) => goOn [.expansion text true] n
      | some (.error what) => .error what
      | none => goOn [.quoted c] 0
    else if c == backquote then
      match backquoted true rest with
      | .ok (text, n) => goOn [.expansion text true] n
      | .error what => .error what
    else goOn [.quoted c] 0
termination_by s.length

/-- The glyphs of the first part of a word, which begins with a character, and how many of the
characters behind it belong to it. -/
def part (c : Char) (rest : List Char) : Except Lack (Word × Nat) :=
  if c == '\'' then
    let inside := rest.takeWhile (· != '\'')
    if inside.length < rest.length then .ok (.quote :: inside.map .quoted, inside.length + 1)
    else .error .quotation
  else if c == '"' then (quotedGlyphs .string rest).map fun (glyphs, n) => (.quote :: glyphs, n)
  else if c == '\\' then
    match rest with
    | [] => .ok ([.bare c], 0)
    | d :: _ => .ok ([.quoted d], 1)
  else if c == '$' then
    match expansion? false rest with
    | some (.ok (text, n)) => .ok ([.expansion text false], n)
    | some (.error what) => .error what
    | none => .ok ([.bare c], 0)
  else if c == backquote then
    (backquoted false rest).map fun (text, n) => ([.expansion text false], n)
  else .ok ([.bare c], 0)

/-- The glyphs of a text in which blanks and operators mean nothing. -/
def glyphs (s : List Char) : Except Lack Word :=
  match s with
  | [] => .ok []
  | c :: rest =>
    match part c rest with
    | .error what => .error what
    | .ok (first, n) => (glyphs (rest.drop n)).map (first ++ ·)
termination_by s.length

/-! ## Documents -/

/-- Whether a bare character ends a word. -/
def endsWord (c : Char) : Bool :=
  " \t\n;&|<>()".toList.contains c

/-- The word that ends a document, without its quotes, while a quote may be open: its characters,
whether any of them is quoted, and how many characters it takes. -/
def delimiterAfter (quote : Option Char) : List Char → List Char × Bool × Nat
  | [] => ([], false, 0)
  | c :: rest =>
    let goOn := fun (own : List Char) (quote : Option Char) (isQuoted : Bool) =>
      let (others, more, n) := delimiterAfter quote rest
      (own ++ others, isQuoted || more, n + 1)
    if quote.isSome then
      if quote == some c then goOn [] none true else goOn [c] quote true
    else if c == '\'' || c == '"' then goOn [] (some c) true
    else if c == '\\' then goOn [] none true
    else if endsWord c then ([], false, 0)
    else goOn [c] none false

/-- The lines of a document and the text behind it. -/
def takeDocument (dropsTabs : Bool) (delimiter s : List Char) : List Char × List Char :=
  let line := s.takeWhile (· != '\n')
  let shown := if dropsTabs then line.dropWhile (· == '\t') else line
  match _h : s.drop line.length with
  | [] => (if shown == delimiter then [] else shown, [])
  | _ :: rest =>
    if shown == delimiter then ([], rest)
    else
      let (others, after) := takeDocument dropsTabs delimiter rest
      (shown ++ '\n' :: others, after)
termination_by s.length
decreasing_by
  have := congrArg List.length _h
  simp at this
  omega

theorem takeDocument_length (dropsTabs : Bool) (delimiter s : List Char) :
    (takeDocument dropsTabs delimiter s).2.length ≤ s.length := by
  fun_induction takeDocument dropsTabs delimiter s with
  | case1 => simp
  | case2 s line _ head rest h =>
    have := congrArg List.length h
    simp at this ⊢
    omega
  | case3 s line _ head rest h _ others after eq ih =>
    have := congrArg List.length h
    simp only [eq] at ih
    simp at this ⊢
    omega

/-- A text without the blanks in front. -/
def afterBlanks (s : List Char) : List Char :=
  s.dropWhile fun c => c == ' ' || c == '\t'

/-- The word of a document that is announced in front of a text, and the text to go on with: the
rest of the line, and what stands behind the document.  A dash in front drops the tabs that the lines
begin with. -/
def document (s : List Char) : Except Lack Word × List Char :=
  let dropsTabs := s.head? == some '-'
  let s := afterBlanks (if dropsTabs then s.drop 1 else s)
  let (delimiter, isQuoted, n) := delimiterAfter none s
  let line := (s.drop n).takeWhile (· != '\n')
  match s.drop (n + line.length) with
  | [] => (.ok [], line)
  | _ :: below =>
    let (body, after) := takeDocument dropsTabs delimiter below
    (if isQuoted then .ok (body.map .quoted) else (quotedGlyphs .document body).map (·.1),
      line ++ '\n' :: after)

/-- Whether a word stands in front of a text, which may end a document; a dash may stand in front of
it. -/
def isDelimited (s : List Char) : Bool :=
  (afterBlanks (if s.head? == some '-' then s.drop 1 else s)).head?.any fun c =>
    !endsWord c && c != '#'

theorem length_afterBlanks (s : List Char) : (afterBlanks s).length ≤ s.length :=
  (List.dropWhile_sublist _).length_le

theorem document_length (s : List Char) : (document s).2.length ≤ s.length := by
  unfold document
  simp only
  have hs : (afterBlanks (if (s.head? == some '-') = true then s.drop 1 else s)).length ≤ s.length :=
    Nat.le_trans (length_afterBlanks _) (by split <;> simp)
  generalize afterBlanks (if (s.head? == some '-') = true then s.drop 1 else s) = t at hs ⊢
  obtain ⟨delimiter, isQuoted, n⟩ := delimiterAfter none t
  have hl : ((t.drop n).takeWhile (· != '\n')).length ≤ (t.drop n).length :=
    (List.takeWhile_sublist _).length_le
  rw [List.length_drop] at hl
  split
  · simp only
    omega
  · rename_i below h
    have hb := congrArg List.length h
    simp only [List.length_drop, List.length_cons] at hb
    have hd := takeDocument_length (s.head? == some '-') delimiter below
    simp only [List.length_append, List.length_cons]
    omega

/-! ## Taking apart -/

/-- The token of a word that may have begun, in front of others.  The glyphs of the word are in
reverse order. -/
def closeWord (word : Option Word) (rest : List Token) : List Token :=
  match word with
  | none => rest
  | some glyphs => .word glyphs.reverse :: rest

/-- The number that a bare digit is. -/
def streamNumber? : Option Word → Option Nat
  | some [.bare c] => if c.isDigit then some (c.toNat - 48) else none
  | _ => none

/-- The operator that begins with a character, and how many characters behind it belong to it. -/
def operator? (c : Char) (rest : List Char) : Option (Operator × Nat) :=
  let next := rest.head?
  match c with
  | '\n' => some (.newline, 0)
  | ';' => some (if next == some ';' then (.caseEnd, 1) else (.semicolon, 0))
  | '(' => some (.opening, 0)
  | ')' => some (.closing, 0)
  | '|' => some (if next == some '|' then (.orElse, 1) else (.pipe, 0))
  | '&' => some (if next == some '&' then (.andThen, 1) else (.ampersand, 0))
  | '<' =>
    some (if next == some '<' then (.redirect none .document, 1)
      else if next == some '&' then (.redirect none .duplicateInput, 1)
      else if next == some '>' then (.redirect none .both, 1)
      else (.redirect none .input, 0))
  | '>' =>
    some (if next == some '>' then (.redirect none .append, 1)
      else if next == some '&' then (.redirect none .duplicate, 1)
      else if next == some '|' then (.redirect none .overwrite, 1)
      else (.redirect none .output, 0))
  | _ => none

/-- The token of an operator behind a word that may have begun, in front of others.  A digit right
before a redirection names the stream. -/
def closeWith (word : Option Word) (o : Operator) (rest : List Token) : List Token :=
  match o, streamNumber? word with
  | .redirect _ direction, some n => .operator (.redirect (some n) direction) :: rest
  | _, _ => closeWord word (.operator o :: rest)

/-- The tokens of a text behind a word that may have begun. -/
def tokensAfter (word : Option Word) (s : List Char) : List Token :=
  match s with
  | [] => closeWord word []
  | c :: rest =>
    if c == ' ' || c == '\t' then closeWord word (tokensAfter none rest)
    else if c == '#' && word.isNone then
      tokensAfter none (rest.drop (rest.takeWhile (· != '\n')).length)
    else if c == '\\' && rest.head? == some '\n' then tokensAfter word (rest.drop 1)
    else
      match operator? c rest with
      | some (.redirect stream .document, n) =>
        let found := document (rest.drop n)
        if isDelimited (rest.drop n) then
          closeWith word (.redirect stream .document)
            (match found.1 with
              | .ok body => .word body :: tokensAfter none found.2
              | .error what => [.lack what])
        else
          let dash := if rest[n]? == some '-' then 1 else 0
          closeWith word (.redirect stream .document) (tokensAfter none (rest.drop (n + dash)))
      | some (o, n) => closeWith word o (tokensAfter none (rest.drop n))
      | none =>
        match part c rest with
        | .ok (glyphs, n) => tokensAfter (some (glyphs.reverse ++ word.getD [])) (rest.drop n)
        | .error what => closeWord word [.lack what]
termination_by s.length
decreasing_by
  all_goals simp
  all_goals try omega
  have := document_length (rest.drop n)
  simp only [List.length_drop] at this
  omega

/-- The tokens of a command. -/
def tokens (command : String) : List Token :=
  tokensAfter none command.toList

end ProjectCheck.Shell
