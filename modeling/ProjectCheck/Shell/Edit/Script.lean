import ProjectCheck.Shell.Expression
import ProjectCheck.Text.Utf8

/-!
# Scripts for editing

A script holds commands, each for some lines of a text.  It comes in pieces, which are expressions
that stand among the arguments, or files.  A piece ends every command but one that adds lines: such a
command goes on in the next piece if a backslash stands at the end, and so does a group of commands.

`Script.read` takes all pieces apart.  What is wrong with a script is found where reading has come to,
and is told with that place: the number of the expression and of the bytes that were read of it, or
the line of the file.
-/

namespace ProjectCheck.Shell.Edit

open ProjectCheck.Text

/-! ## Commands -/

/-- What is looked for in a line. -/
structure Target where
  /-- If there is no expression, what was looked for last. -/
  expression : Option Expression
  ignoresCase : Bool := false
  /-- Whether line ends within a text count as ends of lines. -/
  isByLine : Bool := false
deriving Repr, DecidableEq

/-- A line that a command asks for. -/
inductive Address where
  | number (n : Nat)
  | lastOne
  | fitting (target : Target)
  /-- Every so many lines from a first one on. -/
  | every (first step : Nat)
  /-- So many lines behind the first line of a range. -/
  | after (n : Nat)
  /-- The first line of a range, or the next one whose number is a multiple. -/
  | multiple (n : Nat)
deriving Repr, DecidableEq

/-- The lines that a command is for. -/
inductive Range where
  | all
  | one (a : Address)
  | span (first : Address) (last : Address)
deriving Repr, DecidableEq

/-- A part of what is put in the place of something found. -/
inductive Part where
  | char (c : Char)
  /-- What a group has taken; zero is all that was found. -/
  | group (n : Nat)
  | caseOf (sign : Char)
deriving Repr, DecidableEq

/-- A replacement. -/
structure Replacement where
  target : Target
  parts : List Part
  isGlobal : Bool := false
  prints : Bool := false
  /-- Which of the parts that are found is the first to be replaced, if one is named. -/
  start : Option Nat := none
  /-- The file that the line is written to. -/
  file : Option String := none
deriving Repr, DecidableEq

/-- What a command does. -/
inductive Action where
  | replace (r : Replacement)
  | translate (old new : List Char)
  /-- Adds, inserts or changes lines. -/
  | textual (sign : Char) (text : List Char)
  /-- Goes to a label, or to the end. -/
  | jump (sign : Char) (label : List Char)
  | label (name : List Char)
  | opening
  | closing
  | quit (isSilent : Bool) (status : Nat)
  /-- Reads or writes a file, or one line of it. -/
  | file (sign : Char) (path : String)
  /-- Shows a line with all its characters, in lines of a width. -/
  | display (width : Option Nat)
  /-- Any other command, which is one character. -/
  | plain (sign : Char)
deriving Repr, DecidableEq

/-- A command of a script. -/
structure Command where
  range : Range
  isNegated : Bool
  action : Action
deriving Repr, DecidableEq

/-! ## Faults -/

/-- What is wrong with a script. -/
inductive Fault where
  | unknownCommand (c : Char)
  | missingCommand
  | needless
  | looseComma
  | looseBrace
  | openBrace
  | addressedBrace
  | addressedLabel
  | addressedComment
  | secondAddress
  | lineZero
  | stepFirst
  | repeatedNegation
  | openAddress
  | openReplacement
  | openTranslation
  | wideSeparator
  | unknownFlag
  | repeatedFlag (c : Char)
  | repeatedNumber
  | zeroNumber
  | badReference (n : Nat)
  | differentLengths
  | missingText
  | missingLabel
  | missingFile
  | flagsOfNothing
  | nothingBefore
  | badExpression (why : ExpressionFault)
deriving Repr, DecidableEq

/-- What is said of a fault. -/
def Fault.message : Fault → String
  | unknownCommand c => "unknown command: `" ++ String.singleton c ++ "'"
  | missingCommand => "missing command"
  | needless => "extra characters after command"
  | looseComma => "unexpected `,'"
  | looseBrace => "unexpected `\x7d'"
  | openBrace => "unmatched `\x7b'"
  | addressedBrace => "`\x7d' doesn't want any addresses"
  | addressedLabel => ": doesn't want any addresses"
  | addressedComment => "comments don't accept any addresses"
  | secondAddress => "command only uses one address"
  | lineZero => "invalid usage of line address 0"
  | stepFirst => "invalid usage of +N or ~N as first address"
  | repeatedNegation => "multiple `!'s"
  | openAddress => "unterminated address regex"
  | openReplacement => "unterminated `s' command"
  | openTranslation => "unterminated `y' command"
  | wideSeparator => "delimiter character is not a single-byte character"
  | unknownFlag => "unknown option to `s'"
  | repeatedFlag c => "multiple `" ++ String.singleton c ++ "' options to `s' command"
  | repeatedNumber => "multiple number options to `s' command"
  | zeroNumber => "number option to `s' command may not be zero"
  | badReference n => "invalid reference \\" ++ toString n ++ " on `s' command's RHS"
  | differentLengths => "strings for `y' command are different lengths"
  | missingText => "expected \\ after `a', `c' or `i'"
  | missingLabel => "\":\" lacks a label"
  | missingFile => "missing filename in r/R/w/W commands"
  | flagsOfNothing => "cannot specify modifiers on empty regexp"
  | nothingBefore => "no previous regular expression"
  | badExpression why => why.message

/-- Where a piece of a script comes from. -/
inductive Source where
  | expression (number : Nat)
  | file (name : String)
deriving Repr, DecidableEq

/-- A place in a script: how many bytes of an expression have been read, or a line of a file. -/
structure Place where
  source : Source
  count : Nat
deriving Repr, DecidableEq

/-- How a place is told. -/
def Place.text (p : Place) : String :=
  match p.source with
  | .expression number => "-e expression #" ++ toString number ++ ", char " ++ toString p.count
  | .file name => "file " ++ name ++ " line " ++ toString p.count

/-! ## Readers -/

/-- A script that is being read. -/
structure Draft where
  source : Source
  piece : List Char
  /-- What is left of the piece. -/
  rest : List Char
  commands : Array Command := #[]
  /-- Where the groups begin that are open, the innermost first. -/
  blocks : List Place := []
  /-- Whether the text of the last command goes on. -/
  isOpen : Bool := false
  isQuiet : Bool := false
  /-- How many bytes of the last character have not been read. -/
  unreadBytes : Nat := 0
deriving Repr

/-- The place that reading has come to. -/
def Draft.place (d : Draft) : Place :=
  let taken := d.piece.take (d.piece.length - d.rest.length)
  ⟨d.source, match d.source with
    | .expression _ => (String.ofList taken).utf8ByteSize - d.unreadBytes
    | .file _ => taken.count '\n' + 1⟩

/-- A part of the reading of a script. -/
abbrev Reader := EStateM Fault Draft

namespace Reader

/-- Takes the next character. -/
def next : Reader (Option Char) := do
  match (← get).rest with
  | [] => return none
  | c :: rest =>
    modify ({ · with rest })
    return some c

/-- Puts a character back. -/
def back : Option Char → Reader Unit
  | none => pure ()
  | some c => modify fun d => { d with rest := c :: d.rest }

/-- Goes past characters. -/
def skipWhile (p : Char → Bool) : Reader Unit :=
  modify fun d => { d with rest := d.rest.dropWhile p }

/-- Takes characters. -/
def takeWhile (p : Char → Bool) : Reader (List Char) := do
  let taken := (← get).rest.takeWhile p
  skipWhile p
  return taken

/-- Refuses a character of which only the first byte has been read. -/
def refuseWide {α : Type} (c : Char) (fault : Fault) : Reader α := do
  modify ({ · with unreadBytes := c.utf8Size - 1 })
  throw fault

/-- Whether a character is a blank. -/
def isBlank (c : Char) : Bool :=
  c == ' ' || c == '\t'

/-- Takes the next character that is no blank. -/
def nextVisible : Reader (Option Char) := do
  skipWhile isBlank
  next

/-- Takes a number. -/
def number : Reader Nat :=
  return Expression.numberOf (← takeWhile Char.isDigit)

/-- Makes sure that a command ends. -/
def commandEnd : Reader Unit := do
  match ← nextVisible with
  | none => pure ()
  | some c =>
    if c == '\x7d' || c == '#' then back (some c)
    else if c == '\n' || c == ';' then pure ()
    else throw .needless

/-! ### Delimited texts -/

/-- Where the reading of a delimited text is. -/
inductive Zone where
  | free
  /-- Right behind an opening bracket. -/
  | opened
  /-- Behind an opening bracket and a caret. -/
  | negated
  | inside
  /-- In the name of a set of characters, which a sign and a bracket close. -/
  | named (sign : Char)
deriving Repr, DecidableEq

/-- The zone behind a character in brackets. -/
def Zone.after (zone : Zone) (c : Char) (rest : List Char) : Zone :=
  match zone with
  | .named sign => if c == ']' && sign == ']' then .inside
    else if c == sign && rest.head? == some ']' then .named ']' else zone
  | _ =>
    if c == ']' && zone == .inside then .free
    else if c == '^' && zone == .opened then .negated
    else if c == '[' then
      match rest with
      | d :: _ => if d == ':' || d == '.' || d == '=' then .named d else .inside
      | [] => .inside
    else .inside

/-- The text up to a separator if it is there on the same line, and what is left behind it.  Behind a
backslash a separator stands for itself, and in the brackets of a pattern nothing is one. -/
def upTo (separator : Char) (isPattern : Bool) :
    Zone → List Char → Option (List Char) × List Char
  | _, [] => (none, [])
  | .free, c :: rest =>
    if c == '\n' then (none, c :: rest)
    else if c == separator then (some [], rest)
    else if c == '\\' then
      match rest with
      | [] => (none, [])
      | d :: rest =>
        let (text, left) := upTo separator isPattern .free rest
        let lead := if d == 'n' && isPattern then ['\n']
          else if d == '\n' then if isPattern then ['\n'] else ['\\', '\n']
          else if d == separator && (isPattern || d != '&') then [d]
          else ['\\', d]
        (text.map (lead ++ ·), left)
    else
      let (text, left) := upTo separator isPattern
        (if isPattern && c == '[' then .opened else .free) rest
      (text.map (c :: ·), left)
  | zone, '\\' :: 'n' :: rest =>
    let (text, left) := upTo separator isPattern (zone.after 'n' rest) rest
    (text.map ('\n' :: ·), left)
  | zone, c :: rest =>
    if c == '\n' then (none, c :: rest)
    else
      let (text, left) := upTo separator isPattern (zone.after c rest) rest
      (text.map (c :: ·), left)

/-- Takes the text up to a separator. -/
def delimited (separator : Char) (isPattern : Bool) (fault : Fault) : Reader (List Char) := do
  let (text, rest) := upTo separator isPattern .free (← get).rest
  modify ({ · with rest })
  match text with
  | some text => return text
  | none => throw fault

/-- Takes the separator of a command. -/
def separator (fault : Fault) : Reader Char := do
  match ← next with
  | none => throw fault
  | some c =>
    if 127 < c.toNat then refuseWide c .wideSeparator else return c

/-! ### Characters by other signs -/

/-- The number that digits give in a base. -/
def valueOf (base : Nat) (digits : List Char) : Nat :=
  digits.foldl (fun n c => base * n + (hexValue? c).getD 0) 0

/-- The digits of a base at the front of a text, no more than some. -/
def digitsOf (base most : Nat) (s : List Char) : List Char :=
  (s.take most).takeWhile fun c => (hexValue? c).any (· < base)

/-- The base and the greatest number of digits that a letter behind a backslash announces. -/
def baseOf? : Char → Option (Nat × Nat)
  | 'd' => some (10, 3)
  | 'o' => some (8, 3)
  | 'x' => some (16, 2)
  | _ => none

/-- The control character for a letter behind a backslash. -/
def controlOf? : Char → Option Char
  | 'a' => some '\x07'
  | 'f' => some '\x0c'
  | 'n' => some '\n'
  | 'r' => some '\r'
  | 't' => some '\t'
  | 'v' => some '\x0b'
  | _ => none

/-- The character for what stands behind a backslash, if it stands for another one, and the number of
characters that it takes. -/
def meant? (s : List Char) : Option (Char × Nat) :=
  match s with
  | [] => none
  | 'c' :: c :: _ => some (Char.ofNat (c.toUpper.toNat ^^^ 64), 2)
  | c :: rest =>
    match controlOf? c, baseOf? c with
    | some control, _ => some (control, 1)
    | none, none => none
    | none, some (base, most) =>
      let digits := digitsOf base most rest
      if digits.isEmpty then none
      else
        let code := valueOf base digits % 256
        some (if code < 128 then Char.ofNat code else replacementChar, digits.length + 1)

/-- A pattern in which signs for other characters have been replaced by these. -/
def plainPattern : (skipped : Nat) → List Char → List Char
  | _, [] => []
  | skipped + 1, _ :: rest => plainPattern skipped rest
  | 0, '\\' :: rest =>
    match meant? rest with
    | some (c, n) => c :: plainPattern n rest
    | none =>
      match rest with
      | c :: rest => '\\' :: c :: plainPattern 0 rest
      | [] => ['\\']
  | 0, c :: rest => c :: plainPattern 0 rest

/-- A text without the backslashes in it. -/
def plainText : (skipped : Nat) → List Char → List Char
  | _, [] => []
  | skipped + 1, _ :: rest => plainText skipped rest
  | 0, '\\' :: rest =>
    match meant? rest with
    | some (c, n) => c :: plainText n rest
    | none =>
      match rest with
      | c :: rest => c :: plainText 0 rest
      | [] => []
  | 0, c :: rest => c :: plainText 0 rest

/-- The parts of a replacement. -/
def partsOf : (skipped : Nat) → List Char → List Part
  | _, [] => []
  | skipped + 1, _ :: rest => partsOf skipped rest
  | 0, '\\' :: rest =>
    match meant? rest with
    | some (c, n) => .char c :: partsOf n rest
    | none =>
      match rest with
      | c :: rest =>
        (if c.isDigit then .group (c.toNat - 48)
          else if "ULEul".toList.contains c then .caseOf c
          else .char c) :: partsOf 0 rest
      | [] => []
  | 0, '&' :: rest => .group 0 :: partsOf 0 rest
  | 0, c :: rest => .char c :: partsOf 0 rest

/-! ### Addresses -/

/-- What a pattern looks for. -/
def targetOf (form : ExpressionForm) (pattern : List Char) (ignoresCase isByLine : Bool) :
    Reader Target :=
  if pattern.isEmpty then
    if ignoresCase || isByLine then throw .flagsOfNothing else return ⟨none, false, false⟩
  else
    match Expression.read form (plainPattern 0 pattern) with
    | .ok e => return ⟨some e, ignoresCase, isByLine⟩
    | .error why => throw (.badExpression why)

/-- Takes an address whose first character has been taken, if it is one. -/
def address? (form : ExpressionForm) (first : Option Char) : Reader (Option Address) := do
  let fitting := fun (separator : Char) => do
    let pattern ← delimited separator true .openAddress
    skipWhile isBlank
    let flags ← takeWhile fun c => c == 'I' || c == 'M' || isBlank c
    return some (.fitting (← targetOf form pattern (flags.contains 'I') (flags.contains 'M')))
  match first with
  | none => return none
  | some '/' => fitting '/'
  | some '\\' => fitting (← separator .openAddress)
  | some '$' => return some .lastOne
  | some '+' => skipWhile isBlank; return some (.after (← number))
  | some '~' => skipWhile isBlank; return some (.multiple (← number))
  | some c =>
    if !c.isDigit then return none
    else
      back first
      let n ← number
      match ← nextVisible with
      | some '~' =>
        skipWhile isBlank
        let step ← number
        return some (if step = 0 then .number n else .every n step)
      | other => back other; return some (.number n)

/-- Takes the range of a command whose first character has been taken, and the character behind it. -/
def range (form : ExpressionForm) (first : Option Char) : Reader (Range × Option Char) := do
  match ← address? form first with
  | none => return (.all, first)
  | some a =>
    if a matches .after _ | .multiple _ then throw .stepFirst
    match ← nextVisible with
    | some ',' =>
      match ← address? form (← nextVisible) with
      | none => throw .looseComma
      | some b =>
        let c ← nextVisible
        if a == .number 0 && !(b matches .fitting _) then throw .lineZero
        return (.span a b, c)
    | c =>
      if a == .number 0 then throw .lineZero
      return (.one a, c)

/-! ### Commands -/

/-- Takes text that is added, up to the end of its last line. -/
def addedText : Reader (List Char) := do
  let (text, rest, isOpen) := go (← get).rest
  modify ({ · with rest, isOpen })
  return plainText 0 text
where
  /-- The text up to a line end that stands behind no backslash, what is left behind it, and whether
  a backslash comes last of all. -/
  go : List Char → List Char × List Char × Bool
    | [] => (['\n'], [], false)
    | ['\\'] => (['\n'], [], true)
    | '\\' :: c :: rest => let (text, left) := go rest; ('\\' :: c :: text, left)
    | '\n' :: rest => (['\n'], rest, false)
    | c :: rest => let (text, left) := go rest; (c :: text, left)

/-- Takes the text of a command that adds lines. -/
def textual (sign : Char) : Reader Action := do
  match ← nextVisible with
  | none => throw .missingText
  | some '\\' =>
    match ← next with
    | none =>
      modify ({ · with isOpen := true })
      return .textual sign []
    | some '\n' => pure ()
    | other => back other
    return .textual sign (← addedText)
  | other =>
    back other
    return .textual sign (← addedText)

/-- Takes a label. -/
def label : Reader (List Char) := do
  skipWhile isBlank
  takeWhile fun c => !(c == ' ' || ('\t' ≤ c && c ≤ '\r') || c == ';' || c == '\x7d')

/-- Takes the name of a file. -/
def fileName : Reader String := do
  skipWhile isBlank
  let name ← takeWhile (· != '\n')
  if name.isEmpty then throw .missingFile
  return String.ofList name

/-- What stands behind a replacement. -/
structure Flags where
  isGlobal : Bool := false
  prints : Bool := false
  ignoresCase : Bool := false
  isByLine : Bool := false
  start : Option Nat := none
  file : Option String := none
deriving Repr

/-- Takes what stands behind a replacement. -/
def flags : (fuel : Nat) → Flags → Reader Flags
  | 0, f => return f
  | fuel + 1, f => do
    match ← next with
    | none => return f
    | some c =>
      if c == '\n' || c == ';' then return f
      else if c == '\x7d' || c == '#' then
        back (some c)
        return f
      else if isBlank c then flags fuel f
      else if c == 'i' || c == 'I' then flags fuel { f with ignoresCase := true }
      else if c == 'm' || c == 'M' then flags fuel { f with isByLine := true }
      else if c == 'g' then
        if f.isGlobal then throw (.repeatedFlag 'g')
        flags fuel { f with isGlobal := true }
      else if c == 'p' then
        if f.prints then throw (.repeatedFlag 'p')
        flags fuel { f with prints := true }
      else if c == 'w' then return { f with file := some (← fileName) }
      else if c.isDigit then
        if f.start.isSome then throw .repeatedNumber
        back (some c)
        let n ← number
        if n = 0 then throw .zeroNumber
        flags fuel { f with start := some n }
      else throw .unknownFlag

/-- The greatest number of a group that is asked for. -/
def greatestGroup (parts : List Part) : Nat :=
  parts.foldl (fun most part => match part with
    | .group n => max most n
    | _ => most) 0

/-- Takes a replacement. -/
def replacement (form : ExpressionForm) : Reader Action := do
  let c ← separator .openReplacement
  let pattern ← delimited c true .openReplacement
  let parts := partsOf 0 (← delimited c false .openReplacement)
  let f ← flags ((← get).rest.length + 1) {}
  let target ← targetOf form pattern f.ignoresCase f.isByLine
  match target.expression with
  | some e => if e.groupCount < greatestGroup parts then throw (.badReference (greatestGroup parts))
  | none => pure ()
  return .replace
    { target, parts
      isGlobal := f.isGlobal
      prints := f.prints
      start := f.start
      file := f.file }

/-- Takes a list of characters and those to put in their places. -/
def exchange : Reader Action := do
  let c ← separator .openTranslation
  let old := plainText 0 (← delimited c false .openTranslation)
  let new := plainText 0 (← delimited c false .openTranslation)
  if old.length != new.length then throw .differentLengths
  commandEnd
  return .translate old new

/-- Takes a command whose range and first character have been taken. -/
def action (form : ExpressionForm) (range : Range) (first : Option Char) : Reader Action := do
  match first with
  | none => throw .missingCommand
  | some c =>
    if c == '\x7b' then
      modify fun d => { d with blocks := { d.place with count := match d.source with
        | .expression _ => 0
        | .file _ => d.place.count } :: d.blocks }
      return .opening
    else if c == '\x7d' then
      match (← get).blocks with
      | [] => throw .looseBrace
      | _ :: blocks =>
        if range != .all then throw .addressedBrace
        commandEnd
        modify ({ · with blocks })
        return .closing
    else if c == 's' then replacement form
    else if c == 'y' then exchange
    else if "aic".toList.contains c then textual c
    else if c == ':' then
      if range != .all then throw .addressedLabel
      let name ← label
      if name.isEmpty then throw .missingLabel
      return .label name
    else if "btT".toList.contains c then return .jump c (← label)
    else if "rRwW".toList.contains c then return .file c (← fileName)
    else if "qQ".toList.contains c then
      if range matches .span _ _ then throw .secondAddress
      skipWhile isBlank
      let status ← number
      commandEnd
      return .quit (c == 'Q') status
    else if c == 'l' then
      skipWhile isBlank
      let digits ← takeWhile Char.isDigit
      commandEnd
      return .display (if digits.isEmpty then none else some (Expression.numberOf digits))
    else if "=dDFgGhHnNpPzx".toList.contains c then
      commandEnd
      return .plain c
    else if 127 < c.toNat then refuseWide c (.unknownCommand replacementChar)
    else throw (.unknownCommand c)

/-- Takes a remark.  The first two characters of a script can say that nothing is printed unasked. -/
def remark : Reader Unit := do
  let d ← get
  let text ← takeWhile (· != '\n')
  let isBegin := d.commands.isEmpty && d.piece.length = d.rest.length + 1
  if isBegin && text == ['n'] then modify ({ · with isQuiet := true })

/-- Takes a command; the answer says whether there was one, or a remark. -/
def command (form : ExpressionForm) : Reader Bool := do
  skipWhile fun c => c == ' ' || ('\t' ≤ c && c ≤ '\r') || c == ';'
  match ← next with
  | none => return false
  | some c =>
    let (range, first) ← range form (some c)
    let isNegated := first == some '!'
    let first ← if isNegated then nextVisible else pure first
    if isNegated && first == some '!' then throw .repeatedNegation
    if first == some '#' then
      if range != .all then throw .addressedComment
      remark
    else
      let action ← action form range first
      modify fun d => { d with commands := d.commands.push ⟨range, isNegated, action⟩ }
    return true

/-- Takes commands until none is left. -/
def commands (form : ExpressionForm) : (fuel : Nat) → Reader Unit
  | 0 => pure ()
  | fuel + 1 => do
    if ← command form then commands form fuel

/-- Goes on with the text of the last command. -/
def goOn : Reader Unit := do
  if (← get).isOpen then
    modify ({ · with isOpen := false })
    let more ← addedText
    modify fun d => { d with commands := d.commands.modify (d.commands.size - 1) fun c =>
      match c.action with
      | .textual sign text => { c with action := .textual sign (text ++ more) }
      | _ => c }

/-- Takes all of a piece. -/
def piece (form : ExpressionForm) : Reader Unit := do
  goOn
  commands form ((← get).rest.length + 1)

end Reader

/-! ## Scripts -/

/-- A script. -/
structure Script where
  commands : Array Command
  /-- Whether nothing is printed unasked. -/
  isQuiet : Bool
deriving Repr

/-- Why pieces are no script. -/
inductive Refusal where
  | fault (place : Place) (what : Fault)
  | unknownLabel (name : List Char)
deriving Repr, DecidableEq

/-- What is said of pieces that are no script. -/
def Refusal.message : Refusal → String
  | fault _ (.badExpression .looseClass) => ExpressionFault.message .looseClass
  | fault place what => place.text ++ ": " ++ what.message
  | unknownLabel name => "can't find label for jump to `" ++ String.ofList name ++ "'"

/-- The status of a tool that refuses pieces. -/
def Refusal.status : Refusal → Nat
  | fault _ (.badExpression .looseClass) => 4
  | fault _ _ => 1
  | unknownLabel _ => 4

/-- The labels that commands go to but that do not stand in the script. -/
def lostLabels (commands : List Command) : List (List Char) :=
  let labels := commands.filterMap fun c => match c.action with
    | .label name => some name
    | _ => none
  commands.filterMap fun c => match c.action with
    | .jump _ name => if name.isEmpty || labels.contains name then none else some name
    | _ => none

/-- The script that pieces are. -/
def Script.read (form : ExpressionForm) (pieces : List (Source × List Char)) :
    Except Refusal Script := do
  let draft : Draft := { source := .expression 0, piece := [], rest := [] }
  let draft ← pieces.foldlM (fun (d : Draft) (source, text) =>
    match Reader.piece form { d with source, piece := text, rest := text } with
    | .ok _ d => .ok d
    | .error what d => .error (.fault d.place what)) draft
  match draft.blocks, lostLabels draft.commands.toList with
  | place :: _, _ => .error (.fault place .openBrace)
  | [], name :: _ => .error (.unknownLabel name)
  | [], [] => return ⟨draft.commands, draft.isQuiet⟩

end ProjectCheck.Shell.Edit
