import ProjectCheck.Text.Cut
import ProjectCheck.Yaml.BlockText
import ProjectCheck.Yaml.Plain
import ProjectCheck.Yaml.Quotation

/-!
# Tokens of a YAML text

`tokens` takes a text apart into tokens.  Blocks have no marks of their own in the text: where a
line is indented further than the block around it a block begins, and where it is indented less, the
blocks that it leaves end.

That a scalar or a flow collection is the key of a mapping shows only at the colon behind it.  So
the scanner remembers where the last token of each level of nesting began that might be a key, and
puts the mark of a key in front of it when the colon comes.  Such a key stands on one line.

Tags, anchors and directives are not known.
-/

namespace ProjectCheck.Yaml

open ProjectCheck.Text

/-- A token. -/
inductive Token where
  | documentStart
  | documentEnd
  | blockSequence
  | blockMapping
  | blockEnd
  | flowSequence
  | flowSequenceEnd
  | flowMapping
  | flowMappingEnd
  | blockEntry
  | flowEntry
  | key
  | value
  | plain (text : List Char)
  | quoted (text : List Char)
deriving Repr, DecidableEq

/-! ## Scanning -/

/-- A token that might be a key: its number, where it begins, and whether it has to be one. -/
structure PossibleKey where
  token : Nat
  required : Bool
  place : Place
deriving Repr

/-- A text taken apart so far. -/
structure Scanner where
  place : Place
  tokens : Array Token := #[]
  /-- How many flow collections are open. -/
  flow : Nat := 0
  /-- The indentation of the innermost block. -/
  indent : Int := -1
  /-- The indentations of the blocks around it. -/
  outer : List Int := []
  /-- Whether a key may begin here. -/
  keyAllowed : Bool := true
  /-- The possible key of each level of nesting, the innermost first. -/
  keys : List (Option PossibleKey) := [none]

namespace Scanner

/-- Adds a token. -/
def push (s : Scanner) (t : Token) : Scanner :=
  { s with tokens := s.tokens.push t }

/-- Goes to a place. -/
def moveTo (s : Scanner) (place : Place) : Scanner :=
  { s with place }

/-- The longest distance between a key and its colon. -/
def keyReach : Nat :=
  1024

/-- Whether a possible key is still one at a place. -/
def isNear (key : PossibleKey) (p : Place) : Bool :=
  key.place.line == p.line && p.index - key.place.index ≤ keyReach

/-- Drops the possible keys that are too far away; a required one must not be lost. -/
def dropFarKeys? (s : Scanner) : Option Scanner := do
  let keys ← s.keys.mapM fun key? =>
    match key? with
    | none => some none
    | some key =>
      if isNear key s.place then some (some key) else if key.required then none else some none
  return { s with keys }

/-- Drops the possible key of the innermost level; a required one must not be lost. -/
def dropKey? (s : Scanner) : Option Scanner :=
  match s.keys with
  | some key :: rest => if key.required then none else some { s with keys := none :: rest }
  | _ => some s

/-- Remembers that the next token might be a key. -/
def saveKey? (s : Scanner) : Option Scanner :=
  if !s.keyAllowed then some s
  else do
    let s ← s.dropKey?
    let key : PossibleKey :=
      { token := s.tokens.size
        required := s.flow == 0 && s.indent == (s.place.column : Int)
        place := s.place }
    return { s with keys := some key :: s.keys.drop 1 }

/-- Ends the blocks that a column leaves. -/
def unwind (s : Scanner) (column : Int) : List Int → Scanner
  | [] => s
  | next :: rest =>
    if s.indent > column then
      unwind { s with indent := next, outer := rest, tokens := s.tokens.push .blockEnd } column rest
    else s

/-- Ends the blocks that a column leaves, outside of flow collections. -/
def leaveBlocks (s : Scanner) (column : Int) : Scanner :=
  if s.flow > 0 then s else s.unwind column s.outer

/-- Begins a block at a column, if that is further in, with a token at a position. -/
def enterBlock (s : Scanner) (column : Nat) (t : Token) (position : Nat) : Scanner :=
  if s.indent < (column : Int) then
    { s with
      indent := column
      outer := s.indent :: s.outer
      tokens := s.tokens.insertIdx! position t }
  else s

/-- Skips blanks, comments and line ends. -/
def skipToToken : Nat → Scanner → Scanner
  | 0, s => s
  | fuel + 1, s =>
    let p := s.place.skipBlanks
    let q := if p.rest.head? == some '#' then p.skipLine else p
    match takeBreak? q.rest with
    | none => s.moveTo q
    | some (_, rest) =>
      skipToToken fuel
        { s with place := q.nextLine rest, keyAllowed := s.keyAllowed || s.flow == 0 }

/-- A marker between documents. -/
def documentMark? (s : Scanner) (t : Token) : Option Scanner := do
  let s ← (s.leaveBlocks (-1)).dropKey?
  return ({ s with keyAllowed := false }.push t).moveTo (s.place.forward 3)

/-- The opening of a flow collection. -/
def openFlow? (s : Scanner) (t : Token) : Option Scanner := do
  let s ← s.saveKey?
  return ({ s with flow := s.flow + 1, keys := none :: s.keys, keyAllowed := true }.push t).moveTo
    (s.place.forward 1)

/-- The closing of a flow collection. -/
def closeFlow? (s : Scanner) (t : Token) : Option Scanner := do
  let s ← s.dropKey?
  if s.flow == 0 then none
  return ({ s with flow := s.flow - 1, keys := s.keys.drop 1, keyAllowed := false }.push t).moveTo
    (s.place.forward 1)

/-- A comma in a flow collection. -/
def flowEntry? (s : Scanner) : Option Scanner := do
  let s ← { s with keyAllowed := true }.dropKey?
  return (s.push .flowEntry).moveTo (s.place.forward 1)

/-- A dash in front of an item, or a question mark in front of a key. -/
def blockMark? (s : Scanner) (opening t : Token) (keyAllowed : Bool) : Option Scanner := do
  if s.flow == 0 && !s.keyAllowed then none
  let s := if s.flow == 0 then s.enterBlock s.place.column opening s.tokens.size else s
  let s ← { s with keyAllowed }.dropKey?
  return (s.push t).moveTo (s.place.forward 1)

/-- A colon. -/
def valueMark? (s : Scanner) : Option Scanner :=
  match s.keys with
  | some key :: rest =>
    let s := { s with keys := none :: rest, tokens := s.tokens.insertIdx! key.token .key }
    let s := if s.flow == 0 then s.enterBlock key.place.column .blockMapping key.token else s
    some (({ s with keyAllowed := false }.push .value).moveTo (s.place.forward 1))
  | _ => s.blockMark? .blockMapping .value (s.flow == 0)

/-- A scalar in quotes. -/
def quotedScalar (s : Scanner) (quote : Char) : Except Fault Scanner := do
  let s ← orMalformed s.saveKey?
  let p := s.place.forward 1
  let (text, place) ← takeQuoted quote (p.rest.length + 1) p
  return ({ s with keyAllowed := false }.push (.quoted text)).moveTo place

/-- A block scalar. -/
def blockScalar? (s : Scanner) (fold : Bool) : Option Scanner := do
  let s ← { s with keyAllowed := true }.dropKey?
  let (text, place) ← takeBlockScalar? fold s.indent (s.place.forward 1)
  return (s.push (.quoted text)).moveTo place

/-- Whether a plain scalar may begin with a text. -/
def beginsPlain (inFlow : Bool) : List Char → Bool
  | [] => false
  | c :: rest =>
    if endsToken (c :: rest) then false
    else if "?:,[]\x7b\x7d#&*!|>'\"%@-".toList.contains c || c.toNat == 0x60 then
      !endsToken rest && (c == '-' || (!inFlow && (c == '?' || c == ':')))
    else true

/-- A plain scalar. -/
def plainScalar? (s : Scanner) : Option Scanner := do
  if !beginsPlain (s.flow > 0) s.place.rest then none
  let s ← s.saveKey?
  let (text, broken, place) :=
    takePlain (s.flow > 0) s.indent (s.place.rest.length + 1) [] false s.place
  return ({ s with keyAllowed := broken }.push (.plain text)).moveTo place

/-- The next token, which begins with `c` and is no scalar in quotes. -/
def unquoted? (s : Scanner) (c : Char) (rest : List Char) : Option Scanner :=
  let inFlow := s.flow > 0
  if s.place.column == 0 && isDocumentMark s.place.rest then
    s.documentMark? (if c == '-' then .documentStart else .documentEnd)
  else if s.place.column == 0 && c == '%' then none
  else if c == '[' then s.openFlow? .flowSequence
  else if c == '\x7b' then s.openFlow? .flowMapping
  else if c == ']' then s.closeFlow? .flowSequenceEnd
  else if c == '\x7d' then s.closeFlow? .flowMappingEnd
  else if c == ',' then s.flowEntry?
  else if c == '-' && endsToken rest then s.blockMark? .blockSequence .blockEntry true
  else if c == '?' && (inFlow || endsToken rest) then s.blockMark? .blockMapping .key (!inFlow)
  else if c == ':' && (inFlow || endsToken rest) then s.valueMark?
  else if c == '|' && !inFlow then s.blockScalar? false
  else if c == '>' && !inFlow then s.blockScalar? true
  else s.plainScalar?

/-- The next token, which begins with `c`. -/
def next (s : Scanner) (c : Char) (rest : List Char) : Except Fault Scanner :=
  if c == '\'' || c == '"' then s.quotedScalar c else orMalformed (s.unquoted? c rest)

/-- Takes a text apart to its end. -/
def run : Nat → Scanner → Except Fault (Array Token)
  | 0, _ => .error .malformed
  | fuel + 1, s => do
    let s := skipToToken (s.place.rest.length + 1) s
    let s ← orMalformed s.dropFarKeys?
    match s.place.rest with
    | [] => return (← orMalformed (s.leaveBlocks (-1)).dropKey?).tokens
    | c :: rest => run fuel (← (s.leaveBlocks s.place.column).next c rest)

end Scanner

/-- The tokens of a text. -/
def tokens (text : List Char) : Except Fault (List Token) := do
  let body := dropLead ['\uFEFF'] text
  if !body.all isAllowed then throw .malformed
  return (← Scanner.run (body.length + 1) { place := { rest := body } }).toList

end ProjectCheck.Yaml
