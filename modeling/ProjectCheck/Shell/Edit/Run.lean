import ProjectCheck.Shell.Edit.Script
import ProjectCheck.Shell.Reading

/-!
# Editing lines

A script is carried out for one line after the other.  Its commands work on the line at work and on a
second place that holds a line in reserve, and they print, write to files, and put texts into a queue
that is printed at the end of the work on a line.

A line knows whether a line end follows it, for the last line may have none.  When something is printed
behind a line without one, the line end is printed first.

`Run.carryOut` goes through the commands for one line, and `Run.cycle` through all lines.  Jumps may go
in circles, so the commands for a line are bounded by a number of steps.
-/

namespace ProjectCheck.Shell.Edit

open ProjectCheck.Text

/-- A line, and whether a line end follows it. -/
structure Line where
  text : List Char := []
  isEnded : Bool := true
deriving Repr, DecidableEq

/-- What has been printed to one place. -/
structure Sink where
  /-- The latest part first. -/
  parts : List (List Char) := []
  /-- Whether the last line lacks its line end. -/
  isOpen : Bool := false
deriving Repr

namespace Sink

/-- All that has been printed. -/
def text (s : Sink) : List Char :=
  s.parts.reverse.flatten

/-- Prints a text; what stands before it gets its line end. -/
def add (s : Sink) (mark : Char) (text : List Char) : Sink :=
  ⟨text :: if s.isOpen then [mark] :: s.parts else s.parts, false⟩

/-- Prints a line. -/
def addLine (s : Sink) (mark : Char) (line : Line) : Sink :=
  { s.add mark (if line.isEnded then line.text ++ [mark] else line.text) with
    isOpen := !line.isEnded }

end Sink

/-- How lines are edited. -/
structure Setting where
  isQuiet : Bool := false
  /-- What ends a line. -/
  mark : Char := '\n'
  /-- The width of the lines in which a line is shown. -/
  width : Nat := 70
  /-- The contents of the files that may be read. -/
  contents : Table String (List Char) := []
deriving Repr

/-- How a run is over. -/
inductive Outcome where
  | left (status : Nat)
  | broken (what : Fault)
deriving Repr, DecidableEq

/-- The place of what is printed. -/
def mainSink : String :=
  "/dev/stdout"

/-- What a run of a script has done so far. -/
structure Run where
  script : Script
  setting : Setting
  /-- The lines that have not been read, each with the name of its file. -/
  left : List (String × Line)
  /-- The lines of files that have not been read one by one. -/
  others : Table String (List Line) := []
  /-- The name of the file at work. -/
  name : String := "-"
  line : Line := {}
  reserve : Line := {}
  number : Nat := 0
  sinks : Table String Sink := []
  /-- What is to be printed at the end of the work on the line, the latest first. -/
  queue : List (List Char) := []
  /-- The commands whose ranges have begun, each with the number of the line where it ends, if that is
  known. -/
  begun : List (Nat × Option Nat) := []
  hasReplaced : Bool := false
  /-- What was looked for last. -/
  target : Option Target := none
  outcome : Option Outcome := none
deriving Repr

namespace Run

/-! ## Printing -/

/-- Prints a line to a place. -/
def writeTo (r : Run) (path : String) (line : Line) : Run :=
  let sink := (Table.get? path r.sinks).getD {}
  { r with sinks := Table.put path (sink.addLine r.setting.mark line) r.sinks }

/-- Prints a line. -/
def print (r : Run) (line : Line) : Run :=
  r.writeTo mainSink line

/-- Prints a text. -/
def say (r : Run) (text : List Char) : Run :=
  let sink := (Table.get? mainSink r.sinks).getD {}
  { r with sinks := Table.put mainSink (sink.add r.setting.mark text) r.sinks }

/-- Prints what is in the queue. -/
def flush (r : Run) : Run :=
  { r.queue.reverse.foldl say r with queue := [] }

/-- Ends the work on a line: it is printed unless nothing is, and then what is in the queue. -/
def finish (r : Run) (isShown : Bool) : Run :=
  (if isShown && !r.setting.isQuiet then r.print r.line else r).flush

/-- The part of a line up to the first line end in it. -/
def firstPart (r : Run) : List Char :=
  r.line.text.takeWhile (· != r.setting.mark)

/-- A character in a form in which it can be seen, or the bytes of it. -/
def visible (c : Char) : List (List Char) :=
  match "\\abfnrtv".toList.zip "\\\x07\x08\x0c\n\r\t\x0b".toList |>.find? (·.2 == c) with
  | some (letter, _) => [['\\', letter]]
  | none =>
    if ' ' ≤ c && c ≤ '~' then [[c]]
    else (String.singleton c).toUTF8.toList.map fun b =>
      let digit := fun (n : Nat) => Char.ofNat (48 + n % 8)
      ['\\', digit (b.toNat / 64), digit (b.toNat / 8), digit b.toNat]

/-- A text in a form in which every character can be seen, in lines of no more than a width; with a
width of zero it is one line. -/
def displayed (width : Nat) (s : List Char) : List Char :=
  let (shown, _) := (s.flatMap visible).foldl (fun ((shown : List (List Char)), (column : Nat)) part =>
    if width != 0 && width < column + part.length + 1 then (part :: ['\\', '\n'] :: shown, part.length)
    else (part :: shown, column + part.length)) ([], 0)
  shown.reverse.flatten ++ ['$', '\n']

/-! ## Addresses -/

/-- Whether the line at work is the last one. -/
def isLast (r : Run) : Bool :=
  r.left.isEmpty

/-- What is really looked for, and the run that remembers it. -/
def resolve (r : Run) (target : Target) : Option (Expression × Expression.Subject) × Run :=
  let known := match target.expression with
    | some _ => some target
    | none => r.target
  (known.bind fun t => t.expression.map fun e =>
    (e, { chars := r.line.text.toArray, ignoresCase := t.ignoresCase, isByLine := t.isByLine }),
    { r with target := known })

/-- Whether an address is that of the line at work. -/
def isAt (r : Run) (a : Address) : Bool × Run :=
  match a with
  | .number n => (r.number == n, r)
  | .lastOne => (r.isLast, r)
  | .every first step => (first ≤ r.number && (r.number - first) % step == 0, r)
  | .after _ | .multiple _ => (false, r)
  | .fitting target =>
    match r.resolve target with
    | (some (e, subject), r) => ((e.find? subject 0).isSome, r)
    | (none, r) => (false, { r with outcome := some (.broken .nothingBefore) })

/-- The number of the line where a range ends that begins with the line at work, if it is known; zero
if the range is no longer than that line. -/
def endOf (r : Run) : Address → Option Nat
  | .number n => some n
  | .after n => some (r.number + n)
  | .multiple n => some (if n = 0 then 0 else (r.number / n + 1) * n)
  | _ => none

/-- Whether a command is for the line at work, and what is known of its range from now on. -/
def covers (r : Run) (index : Nat) (range : Range) : Bool × Run :=
  match range with
  | .all => (true, r)
  | .one a => r.isAt a
  | .span first last =>
    let others := r.begun.filter (·.1 != index)
    match r.begun.lookup index with
    | some (some n) =>
      (r.number ≤ n, if n ≤ r.number then { r with begun := others } else r)
    | some none =>
      let (isOver, r) := r.isAt last
      (true, if isOver then { r with begun := others } else r)
    | none =>
      let (isFirst, r) := r.isAt first
      if !isFirst then (false, r)
      else
        match r.endOf last with
        | some n => (true, if n ≤ r.number then r else { r with begun := (index, some n) :: others })
        | none =>
          if last == .lastOne && r.isLast then (true, r)
          else (true, { r with begun := (index, none) :: others })

/-! ## Replacing -/

/-- A text in the case that is asked for: of all of it, or of its first character. -/
def cased (whole : Option Char) (first : Option Char) (s : List Char) : List Char :=
  let s := match whole with
    | some 'U' => s.map upperChar
    | some 'L' => s.map lowerChar
    | _ => s
  match first, s with
  | some 'u', c :: rest => upperChar c :: rest
  | some 'l', c :: rest => lowerChar c :: rest
  | _, _ => s

/-- What is put in the place of something found. -/
def replaced (chars : Array Char) (f : Expression.Found) (parts : List Part) : List Char :=
  (parts.foldl (fun ((shown : List (List Char)), (whole : Option Char), (first : Option Char)) part =>
    match part with
    | .char c => (cased whole first [c] :: shown, whole, none)
    | .caseOf sign =>
      if sign == 'u' || sign == 'l' then (shown, whole, some sign)
      else (shown, if sign == 'E' then none else some sign, first)
    | .group n =>
      let (a, b) := if n = 0 then (f.first, f.last) else (f.groups.lookup n).getD (0, 0)
      let text := (chars.extract a b).toList
      (cased whole first text :: shown, whole, if text.isEmpty then first else none))
    ([], none, none)).1.reverse.flatten

/-- The text after a replacement, if anything was replaced. -/
def replacedText? (e : Expression) (subject : Expression.Subject) (r : Replacement) :
    Option (List Char) :=
  let wanted := (e.findAll subject).drop (r.start.getD 1 - 1)
  let wanted := if r.isGlobal then wanted else wanted.take 1
  if wanted.isEmpty then none
  else
    let chars := subject.chars
    let (shown, last) := wanted.foldl (fun ((shown : List (List Char)), (last : Nat)) f =>
      (replaced chars f r.parts :: (chars.extract last f.first).toList :: shown, f.last)) ([], 0)
    some (((chars.extract last chars.size).toList :: shown).reverse.flatten)

/-- Replaces what is found in the line at work. -/
def replace (r : Run) (s : Replacement) : Run :=
  match r.resolve s.target with
  | (none, r) => { r with outcome := some (.broken .nothingBefore) }
  | (some (e, subject), r) =>
    if e.groupCount < Reader.greatestGroup s.parts then
      { r with outcome := some (.broken (.badReference (Reader.greatestGroup s.parts))) }
    else
      match replacedText? e subject s with
      | none => r
      | some text =>
        let r := { r with line := { r.line with text }, hasReplaced := true }
        let r := if s.prints then r.print r.line else r
        s.file.elim r fun path => r.writeTo path r.line

/-! ## Carrying out -/

/-- Reads the next line; what is in the queue is printed first. -/
def readNext (r : Run) : Option (Line × Run) :=
  match r.left with
  | [] => none
  | (name, line) :: left =>
    some (line, { r.flush with left, name, number := r.number + 1, hasReplaced := false })

/-- The place of a label. -/
def labelPlace (r : Run) (name : List Char) : Nat :=
  if name.isEmpty then r.script.commands.size
  else (r.script.commands.findIdx? fun c => c.action == .label name).getD r.script.commands.size

/-- The place behind the brace that closes one at a place. -/
def behindBrace (r : Run) (place : Nat) : Nat :=
  let rec go (fuel depth place : Nat) : Nat :=
    match fuel with
    | 0 => place
    | fuel + 1 =>
      match (r.script.commands[place]?).map Command.action with
      | none => place
      | some .opening => go fuel (depth + 1) (place + 1)
      | some .closing => if depth ≤ 1 then place + 1 else go fuel (depth - 1) (place + 1)
      | some _ => go fuel depth (place + 1)
  go (r.script.commands.size + 1) 0 place

/-- Carries out a command for a file. -/
def useFile (r : Run) (sign : Char) (path : String) : Run :=
  if sign == 'w' then r.writeTo path r.line
  else if sign == 'W' then r.writeTo path ⟨r.firstPart, true⟩
  else if sign == 'r' then
    match Table.get? path r.setting.contents with
    | some text => { r with queue := text :: r.queue }
    | none => r
  else
    match Table.get? path r.others with
    | some (line :: left) =>
      { r with queue := (line.text ++ [r.setting.mark]) :: r.queue, others := Table.put path left r.others }
    | _ => r

/-- How the commands for a line come to an end. -/
inductive Close where
  | shown
  | hidden
  /-- They begin again with the line as it is. -/
  | again
deriving Repr, DecidableEq

/-- Carries out a command that is one character, at a place; the answer says how the commands for the line come to
an end, if they do. -/
def plain (r : Run) (sign : Char) : Run × Option Close :=
  let text := r.line.text
  let mark := r.setting.mark
  let withText := fun (text : List Char) => ({ r with line := { r.line with text } }, none)
  if sign == 'd' then (r, some .hidden)
  else if sign == 'D' then
    if text.contains mark then
      ({ r with line := { r.line with text := (text.dropWhile (· != mark)).drop 1 } }, some .again)
    else (r, some .hidden)
  else if sign == 'p' then (r.print r.line, none)
  else if sign == 'P' then (r.print ⟨r.firstPart, true⟩, none)
  else if sign == 'n' then
    if r.left.isEmpty then ({ r with outcome := some (.left 0) }, some .shown)
    else
      let r := if r.setting.isQuiet then r else r.print r.line
      match r.readNext with
      | some (line, r) => ({ r with line }, none)
      | none => (r, some .shown)
  else if sign == 'N' then
    match r.readNext with
    | none => ({ r with outcome := some (.left 0) }, some .shown)
    | some (line, r) => ({ r with line := { line with text := text ++ mark :: line.text } }, none)
  else if sign == 'g' then ({ r with line := r.reserve }, none)
  else if sign == 'G' then
    ({ r with line := { r.reserve with text := text ++ mark :: r.reserve.text } }, none)
  else if sign == 'h' then ({ r with reserve := r.line }, none)
  else if sign == 'H' then
    ({ r with reserve := { r.line with text := r.reserve.text ++ mark :: text } }, none)
  else if sign == 'x' then ({ r with line := r.reserve, reserve := r.line }, none)
  else if sign == 'z' then withText []
  else if sign == '=' then (r.say ((toString r.number).toList ++ ['\n']), none)
  else (r.say (r.name.toList ++ ['\n']), none)

/-- Carries out the commands from a place on, with a number of steps left. -/
def carryOut : Nat → (place : Nat) → Run → Run × Close
  | 0, _, r => ({ r with outcome := some (.left 1) }, .hidden)
  | fuel + 1, place, r =>
    match r.script.commands[place]? with
    | none => (r, .shown)
    | some command =>
      let (isCovered, r) := r.covers place command.range
      let next := place + 1
      if r.outcome.isSome then (r, .hidden)
      else if isCovered == command.isNegated then
        carryOut fuel (if command.action == .opening then r.behindBrace place else next) r
      else
        match command.action with
        | .replace s =>
          let r := r.replace s
          if r.outcome.isSome then (r, .hidden) else carryOut fuel next r
        | .translate old new =>
          let text := r.line.text.map fun c => ((old.zip new).lookup c).getD c
          carryOut fuel next { r with line := { r.line with text } }
        | .textual sign text =>
          if sign == 'i' then carryOut fuel next (r.say text)
          else if sign == 'a' then carryOut fuel next { r with queue := text :: r.queue }
          else (if (r.begun.lookup place).isSome then r else r.say text, .hidden)
        | .jump sign label =>
          if sign == 'b' then carryOut fuel (r.labelPlace label) r
          else
            let isTaken := r.hasReplaced == (sign == 't')
            carryOut fuel (if isTaken then r.labelPlace label else next)
              { r with hasReplaced := false }
        | .quit isSilent status =>
          ({ r with outcome := some (.left status) }, if isSilent then .hidden else .shown)
        | .file sign path => carryOut fuel next (r.useFile sign path)
        | .display width =>
          carryOut fuel next (r.say (displayed (width.getD r.setting.width) r.line.text))
        | .plain sign =>
          match r.plain sign with
          | (r, none) => carryOut fuel next r
          | (r, some close) => (r, close)
        | .label _ => carryOut fuel next r
        | .opening => carryOut fuel next r
        | .closing => carryOut fuel next r

/-- How many steps a script may take for a line. -/
def stepsPerLine : Nat :=
  20000

/-- Edits lines until none is left; the next line is read unless the line at work is edited
again. -/
def cycle : Nat → (isAgain : Bool) → Run → Run
  | 0, _, r => r
  | fuel + 1, isAgain, r =>
    match if isAgain then some (r.line, r) else r.readNext with
    | none => r
    | some (line, r) =>
      let (r, close) := carryOut stepsPerLine 0 { r with line }
      let r := if r.outcome matches some (.broken _) then r else r.finish (close == .shown)
      if r.outcome.isSome then r else cycle fuel (close == .again) r

/-- Edits lines with what is in reserve, anew for ranges and numbers of lines. -/
def edit (r : Run) (lines : List (String × Line)) : Run :=
  let atZero := r.script.commands.toList.zipIdx.filterMap fun (c, i) =>
    match c.range with
    | .span (.number 0) _ => some (i, none)
    | _ => none
  cycle (2 * lines.length + (lines.map (·.2.text.length)).foldl (· + ·) 0 + 2) false
    { r with left := lines, number := 0, begun := atZero }

end Run

end ProjectCheck.Shell.Edit
