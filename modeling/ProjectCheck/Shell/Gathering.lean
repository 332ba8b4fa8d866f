import ProjectCheck.Shell.Call

/-!
# Commands for words of the input

`xargs` makes commands of the words, lines or records of the input.  What it runs depends on the input alone:
the words are put behind those of the command until there are as many as a command may have, or as many lines,
or as many bytes; or each line takes the place of a mark in a command of its own.
-/

namespace ProjectCheck.Shell

open ProjectCheck.Text

/-! ## What is asked for -/

/-- How words are put into commands. -/
inductive GatheringWay where
  /-- As many as fit. -/
  | all
  | words (most : Nat)
  | lines (most : Nat)
  /-- Each line takes the place of a mark. -/
  | inPlace (mark : String)
deriving Repr, DecidableEq

/-- What commands are made of. -/
structure GatheringCall where
  way : GatheringWay := .all
  /-- What ends a record, where records are read in the place of words. -/
  recordEnd : Option Char := none
  /-- The word that ends the input. -/
  lastWord : Option String := none
  /-- The path that is read in the place of the input. -/
  source : Option String := none
  /-- How many bytes a command may have, each word counting one more. -/
  sizeLimit : Nat := 131072
  /-- A command that comes to be too long ends it all. -/
  isStrict : Bool := false
  /-- Without words nothing is run. -/
  isShy : Bool := false
  isTold : Bool := false
  isAsking : Bool := false
  /-- What is said before anything is run. -/
  warnings : List String := []
  words : List String := ["echo"]
deriving Repr, DecidableEq

namespace GatheringCall

/-- The options of the tool. -/
def form : OptionForm :=
  { tool := "xargs", plain := "0oprtxSV".toList, valued := "aEILnsPdU".toList, attached := "eil".toList
    long := [("null", '0'), ("arg-file", 'a'), ("delimiter", 'd'), ("eof", 'e'), ("replace", 'i'),
      ("max-lines", 'l'), ("max-args", 'n'), ("open-tty", 'o'), ("interactive", 'p'), ("no-run-if-empty", 'r'),
      ("max-chars", 's'), ("verbose", 't'), ("show-limits", 'S'), ("exit", 'x'), ("max-procs", 'P'),
      ("process-slot-var", 'U')] }

/-- A fault that ends the tool. -/
def fault (what : String) : CallFault :=
  { status := 1, text := "xargs: " ++ what }

/-- A fault in the use of the tool. -/
def faultOfUse (what : String) : CallFault :=
  fault (what ++ "\n" ++ CallFault.hint "xargs")

/-- The number that is the value of an option. -/
def number (option : Char) (least : Int) (text : String) : Except CallFault Nat :=
  match signedNumber? text with
  | none =>
    .error (faultOfUse ("invalid number \"" ++ text ++ "\" for -" ++ String.singleton option ++ " option"))
  | some n =>
    if n < least then
      .error (faultOfUse ("value " ++ text ++ " for -" ++ String.singleton option ++ " option should be >= " ++
        toString least))
    else .ok n.toNat

/-- The character that a text is or stands for, as the end of records. -/
def readRecordEnd (text : String) : Except CallFault Char :=
  let unknown := fault ("Invalid escape sequence " ++ text ++ " in input delimiter specification.")
  match text.toList with
  | '\\' :: 'x' :: digits =>
    if digits.isEmpty then .error unknown
    else (PlacedNumber.readHexadecimal? digits).elim (.error unknown) fun n => .ok (Char.ofNat n)
  | ['\\', c] =>
    match ([('\\', '\\'), ('a', '\x07'), ('b', '\x08'), ('f', '\x0c'), ('n', '\n'), ('r', '\r'), ('t', '\t'),
        ('v', '\x0b')] : List (Char × Char)).lookup c with
    | some d => .ok d
    | none => if '0' ≤ c && c ≤ '7' then .ok (Char.ofNat (c.toNat - 48)) else .error unknown
  | '\\' :: digits =>
    if digits.all fun c => '0' ≤ c && c ≤ '7' then
      .ok (Char.ofNat (digits.foldl (fun n c => 8 * n + (c.toNat - 48)) 0))
    else .error unknown
  | s =>
    match s, text.utf8ByteSize with
    | [c], 1 => .ok c
    | _, _ => .error (fault ("Invalid input delimiter specification " ++ text ++
      ": the delimiter must be either a single character or an escape sequence starting with \\."))

/-- The call with another way to gather words.  Only one way can be asked for: the last one counts, and an
earlier one is warned of, but for one word a command where marks are replaced. -/
def withWay (own : GatheringWay) (names : GatheringWay → String) (call : GatheringCall) : GatheringCall :=
  let warning := fun (name given : String) =>
    "xargs: warning: options " ++ name ++ " and " ++ given ++ " are mutually exclusive, ignoring previous " ++
      name ++ " value"
  let given := names own
  match call.way, own with
  | .all, _ => { call with way := own }
  | .inPlace _, .words 1 => call
  | .inPlace _, .inPlace _ => { call with way := own }
  | .words _, .words _ => { call with way := own }
  | .lines _, .lines _ => { call with way := own }
  | old, _ =>
    let name := match old with
      | .words _ => "--max-args"
      | .lines _ => "--max-lines"
      | _ => "--replace"
    { call with way := own, warnings := call.warnings ++ [warning name given] }

/-- The call with an option more. -/
def withOption (call : GatheringCall) (option : Char) (value : String) : Except CallFault GatheringCall := do
  let inWay := fun (own : GatheringWay) (name : String) => withWay own (fun _ => name) call
  match option with
  | '0' => return { call with recordEnd := some '\x00' }
  | 'a' => return { call with source := some value }
  | 'd' => return { call with recordEnd := some (← readRecordEnd value) }
  | 'E' => return { call with lastWord := if value.isEmpty then none else some value }
  | 'e' => return { call with lastWord := if value.isEmpty then none else some value }
  | 'I' => return inWay (.inPlace value) "--replace/-I/-i"
  | 'i' => return inWay (.inPlace (if value.isEmpty then "\x7b\x7d" else value)) "--replace/-I/-i"
  | 'L' => return inWay (.lines (← number 'L' 1 value)) "-L"
  | 'l' => return inWay (.lines (← if value.isEmpty then pure 1 else number 'l' 1 value)) "--max-lines/-l"
  | 'n' => return inWay (.words (← number 'n' 1 value)) "--max-args/-n"
  | 's' =>
    match signedNumber? value with
    | some n =>
      let what := fun (order : String) (limit : Nat) =>
        ["xargs: value " ++ value ++ " for -s option should be " ++ order ++ " " ++ toString limit]
      let greatest := 2092992
      if n < 1 then return { call with sizeLimit := 1, warnings := call.warnings ++ what ">=" 1 }
      else if greatest < n.toNat then
        return { call with sizeLimit := greatest, warnings := call.warnings ++ what "<=" greatest }
      else return { call with sizeLimit := n.toNat }
    | none => throw (faultOfUse ("invalid number \"" ++ value ++ "\" for -s option"))
  | 'P' =>
    let _ ← number 'P' 0 value
    return call
  | 'p' => return { call with isAsking := true, isTold := true }
  | 'r' => return { call with isShy := true }
  | 't' => return { call with isTold := true }
  | 'x' => return { call with isStrict := true }
  | _ => return call

/-- Reads the arguments of the tool that makes arguments of the input. -/
def read (args : List String) : Except CallFault GatheringCall := do
  let (o, words) ← form.readCommand args
  let call ← o.given.foldlM (fun call (option, value) => withOption call option value) {}
  let warnings := if call.recordEnd.isSome && call.lastWord.isSome then
      ["xargs: warning: the -E option has no effect if -0 or -d is used.\n"] else []
  let isStrict := match call.way with
    | .lines _ => true
    | .inPlace _ => true
    | _ => call.isStrict
  return { call with
    isStrict
    warnings := call.warnings ++ warnings
    lastWord := if call.recordEnd.isSome then none else call.lastWord
    words := if words.isEmpty then ["echo"] else words }

/-! ## What is read -/

end GatheringCall

/-- A part of the input. -/
inductive InputPart where
  | word (text : String)
  /-- The end of a line, which counts unless a blank stands in front of it. -/
  | lineEnd (counts : Bool)
  /-- A quote stays open. -/
  | openQuote (quote : Char)
deriving Repr, DecidableEq

namespace InputPart

/-- What is known of the input up to some place. -/
structure Reading where
  /-- The word that has begun, in reverse order. -/
  word : Option (List Char) := none
  quote : Option Char := none
  /-- The character in front. -/
  before : Char := '\n'

/-- The parts of the input.  Quotes and backslashes take the meaning from characters; blanks in front of a
word count for nothing, nor do line ends. -/
def ofText (isWholeLine : Bool) (r : Reading) : List Char → List InputPart
  | [] =>
    match r.word, r.quote with
    | none, _ => []
    | some [], _ => []
    | some (_ :: _), some '"' => [openQuote '"']
    | some (_ :: _), some '\'' => [openQuote '\'']
    | some w, _ => [word (String.ofList w.reverse)]
  | c :: rest =>
    let own := (r.word.map fun w => word (String.ofList w.reverse)).toList
    let going := { r with before := c }
    match r.quote with
    | some '\\' => ofText isWholeLine { going with quote := none, word := some (c :: r.word.getD []) } rest
    | some q =>
      if c == '\n' then [openQuote q]
      else if c == q then ofText isWholeLine { going with quote := none } rest
      else ofText isWholeLine { going with word := some (c :: r.word.getD []) } rest
    | none =>
      if r.word.isNone && " \t\n\x0b\x0c\r".toList.contains c then ofText isWholeLine going rest
      else if c == '\n' then
        own ++ lineEnd (!(r.before == ' ' || r.before == '\t')) :: ofText isWholeLine { before := c } rest
      else if !isWholeLine && (c == ' ' || c == '\t') then own ++ ofText isWholeLine { before := c } rest
      else if c == '\\' || c == '\'' || c == '"' then
        ofText isWholeLine { going with quote := some c, word := some (r.word.getD []) } rest
      else ofText isWholeLine { going with word := some (c :: r.word.getD []) } rest

/-- The parts of an input of records. -/
def ofRecords (mark : Char) (input : List Char) : List InputPart :=
  let records := pieces mark input
  let whole := (records.dropLast.map String.ofList).flatMap fun record => [word record, lineEnd true]
  match records.getLast? with
  | some [] => whole
  | some record => whole ++ [word (String.ofList record)]
  | none => whole

end InputPart

/-! ## What is run -/

/-- The commands that are run one after the other, and what is wrong behind them. -/
structure GatheringPlan where
  commands : List (List String) := []
  fault : Option CallFault := none

/-- The words that are gathered. -/
structure Gathered where
  /-- The words for the next command, in reverse order. -/
  words : List String := []
  /-- How many bytes they have. -/
  size : Nat := 0
  lines : Nat := 0
  /-- The commands that are full, in reverse order. -/
  full : List (List String) := []

namespace GatheringCall

/-- How many bytes words take. -/
def sizeOf (words : List String) : Nat :=
  words.foldl (fun size word => size + word.utf8ByteSize + 1) 0

/-- What is gathered when a command is full. -/
def closed (call : GatheringCall) (g : Gathered) : Gathered :=
  { full := (call.words ++ g.words.reverse) :: g.full }

/-- The plan when the input has ended, or something is wrong. -/
def ended (call : GatheringCall) (g : Gathered) (fault : Option CallFault) : GatheringPlan :=
  let runsRest := match fault with
    | some _ => !g.words.isEmpty && !call.isStrict
    | none => !g.words.isEmpty || (g.full.isEmpty && !call.isShy)
  { commands := (if runsRest then call.closed g else g).full.reverse, fault }

/-- What is wrong with a quote that stays open. -/
def quoteFault (quote : Char) : CallFault :=
  fault ("unmatched " ++ (if quote == '"' then "double" else "single") ++
    " quote; by default quotes are special to xargs unless you use the -0 option")

/-- The plan for parts of the input, some words being gathered already. -/
def planFrom (call : GatheringCall) (g : Gathered) : List InputPart → GatheringPlan
  | [] => call.ended g none
  | part :: rest =>
    match part with
    | .openQuote quote => call.ended g (some (quoteFault quote))
    | .lineEnd counts =>
      let lines := g.lines + if counts then 1 else 0
      match call.way with
      | .lines most => planFrom call (if most ≤ lines then call.closed g else { g with lines }) rest
      | _ => planFrom call g rest
    | .word text =>
      let size := text.utf8ByteSize + 1
      let room := call.sizeLimit - sizeOf call.words
      if call.lastWord == some text then call.ended g none
      else if room < size then call.ended g (some (fault "argument line too long"))
      else if room < g.size + size && call.isStrict && call.way != .all then
        { commands := g.full.reverse, fault := some (fault "argument list too long") }
      else
        let g := if room < g.size + size then { call.closed g with lines := g.lines } else g
        let g := { g with words := text :: g.words, size := g.size + size }
        match call.way with
        | .words most => planFrom call (if most ≤ g.words.length then call.closed g else g) rest
        | _ => planFrom call g rest

/-- The plan where lines take the place of a mark: the name of the command stays as it is. -/
def planInPlace (call : GatheringCall) (mark : String) : List InputPart → GatheringPlan
  | [] => {}
  | part :: rest =>
    match part with
    | .openQuote quote => { fault := some (quoteFault quote) }
    | .lineEnd _ => planInPlace call mark rest
    | .word text =>
      if call.lastWord == some text then {}
      else if mark.isEmpty then { fault := some (fault "command too long") }
      else
        let plan := planInPlace call mark rest
        let command := call.words.take 1 ++ (call.words.drop 1).map (replacedIn mark text)
        if call.sizeLimit < sizeOf command then { fault := some (fault "argument list too long") }
        else { plan with commands := command :: plan.commands }

/-- The plan for an input. -/
def plan (call : GatheringCall) (input : List Char) : GatheringPlan :=
  let parts := fun (isWholeLine : Bool) =>
    match call.recordEnd with
    | some mark => InputPart.ofRecords mark input
    | none => InputPart.ofText isWholeLine {} input
  if call.sizeLimit < sizeOf call.words then
    { fault := some (fault "cannot fit single argument within argument list size limit") }
  else
    match call.way with
    | .inPlace mark => call.planInPlace mark (parts true)
    | _ => call.planFrom {} (parts false)

end GatheringCall

end ProjectCheck.Shell
