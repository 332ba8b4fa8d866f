import ProjectCheck.Number.Reading
import ProjectCheck.Shell.Expression
import ProjectCheck.Shell.Reading

/-!
# How lines are laid out

Tools that print lines as they are but in another form: with signs for what does not show, with numbers in
front of them, cut to a width, or with tabs and blanks exchanged.

A line is measured in columns.  A tab reaches to the next of its stops, which stand at equal distances or in
a list.
-/

namespace ProjectCheck.Shell

open ProjectCheck.Number ProjectCheck.Text

/-! ## Marks for what does not show -/

/-- Where showing has got to: how many lines have a number, how many line ends stand directly before, none
within a line, and whether a return waits for the byte behind it. -/
structure Showing where
  numbered : Nat := 0
  ends : Option Nat := some 0
  isWaiting : Bool := false
deriving Repr, DecidableEq

namespace Showing

/-- A byte as signs that can be seen. -/
def visible (b : UInt8) : List UInt8 :=
  let own := fun (b : UInt8) =>
    if b < 32 then [94, b + 64] else if b == 127 then [94, 63] else [b]
  if b < 128 then own b else bytesOf "M-" ++ own (b - 128)

/-- A byte within a line, as options ask for it. -/
def marked (o : Options) (b : UInt8) : List UInt8 :=
  if b == 9 then if o.has 'T' then bytesOf "^I" else [9]
  else if o.has 'v' then visible b
  else [b]

/-- The number in front of the next line. -/
def number (s : Showing) : List UInt8 :=
  bytesOf (aligned 6 (s.numbered + 1) ++ "\t")

/-- Shows a line end. -/
def showEnd (o : Options) (s : Showing) : List UInt8 × Showing :=
  let gap := s.ends.elim 0 fun n => Nat.min (n + 1) 2
  if gap = 2 && o.has 's' then ([], { s with ends := some 2 })
  else
    let isNumbered := 0 < gap && o.has 'n' && !o.has 'b'
    ((if isNumbered then s.number else []) ++ (if s.isWaiting then bytesOf "^M" else []) ++
        (if o.has 'E' then bytesOf "$\n" else [10]),
      { numbered := if isNumbered then s.numbered + 1 else s.numbered, ends := some gap })

/-- Shows a byte. -/
def showByte (o : Options) (s : Showing) (b : UInt8) : List UInt8 × Showing :=
  if b == 10 then s.showEnd o
  else
    let isNumbered := s.ends.isSome && (o.has 'n' || o.has 'b')
    let before := (if s.isWaiting then [13] else []) ++ if isNumbered then s.number else []
    let waits := b == 13 && o.has 'E' && !o.has 'v'
    (before ++ (if waits then [] else marked o b),
      { numbered := if isNumbered then s.numbered + 1 else s.numbered, ends := none
        isWaiting := waits })

/-- Shows bytes. -/
def showAll (o : Options) (s : Showing) (bytes : List UInt8) : List UInt8 × Showing :=
  let (shown, s) := bytes.foldl (fun (shown, s) b =>
    let (more, s) := s.showByte o b
    (more.reverse ++ shown, s)) (([] : List UInt8), s)
  (shown.reverse, s)

end Showing

/-- The options of `cat`. -/
def catForm : OptionForm :=
  { tool := "cat", plain := "AbeEnstTuv".toList,
    long := [("number-nonblank", 'b'), ("number", 'n'), ("squeeze-blank", 's'),
      ("show-nonprinting", 'v'), ("show-ends", 'E'), ("show-tabs", 'T'), ("show-all", 'A')] }

/-- The options with those that some letters stand for. -/
def withShortForms (forms : List (Char × List Char)) (o : Options) : Options :=
  let more := forms.flatMap fun (letter, meant) => if o.has letter then meant.map (·, "") else []
  { o with given := o.given ++ more }

/-- Prints files one after the other, the input if none is named. -/
def cat : Tool := withOptions catForm fun o m =>
  let o := withShortForms [('A', "vET".toList), ('e', "vE".toList), ('t', "vT".toList)] o
  let (status, s, m) := overNamedWith o.operands (complainOf "cat")
    (fun (s : Showing) _ bytes => s.showAll o bytes) {} m
  (status, if s.isWaiting then m.print [13] else m)

/-! ## Numbers in front of lines -/

/-- Which lines have a number. -/
inductive NumberedLines where
  | all
  | notEmpty
  | none_
  | fitting (e : Expression)

namespace NumberedLines

/-- The lines that a text asks for. -/
def read? (text : String) : Option NumberedLines :=
  match text.toList with
  | 'a' :: _ => some all
  | 't' :: _ => some notEmpty
  | 'n' :: _ => some none_
  | 'p' :: pattern => (Expression.read .basic pattern).toOption.map fitting
  | _ => none

end NumberedLines

/-- The parts of a page. -/
inductive PagePart where
  | header
  | body
  | footer
deriving Repr, DecidableEq

/-- How lines are numbered. -/
structure Numbering where
  header : NumberedLines := .none_
  body : NumberedLines := .notEmpty
  footer : NumberedLines := .none_
  /-- The two signs of which lines between the parts of a page are made. -/
  signs : List Char := ['\\', ':']
  start : Int := 1
  step : Int := 1
  /-- How many empty lines count as one. -/
  together : Nat := 1
  format : String := "rn"
  width : Nat := 6
  separator : String := "\t"
  goesOn : Bool := false

/-- Where numbering has got to. -/
structure Numbered where
  part : PagePart := .body
  next : Int
  /-- How many empty lines stand before that have no number. -/
  empties : Nat := 0

namespace Numbering

/-- A number in front of a line. -/
def shown (n : Numbering) (value : Int) : String :=
  let digits := toString value.natAbs
  let sign := if value < 0 then "-" else ""
  let gap := n.width - digits.length - sign.length
  let fill := fun (c : Char) => String.ofList (List.replicate gap c)
  (match n.format with
    | "ln" => sign ++ digits ++ fill ' '
    | "rz" => sign ++ fill '0' ++ digits
    | _ => fill ' ' ++ sign ++ digits) ++ n.separator

/-- The lines of a part that have a number. -/
def linesOf (n : Numbering) : PagePart → NumberedLines
  | .header => n.header
  | .body => n.body
  | .footer => n.footer

/-- The part of a page that a line begins. -/
def partBegunBy? (n : Numbering) (line : List UInt8) : Option PagePart :=
  let mark := bytesOf (String.ofList n.signs)
  if mark.isEmpty then none
  else if line == mark then some .footer
  else if line == mark ++ mark then some .body
  else if line == mark ++ mark ++ mark then some .header
  else none

/-- Numbers a line. -/
def line (n : Numbering) (s : Numbered) (line : List UInt8) : List UInt8 × Numbered :=
  match n.partBegunBy? line with
  | some part => ([10], { s with part, next := if n.goesOn then s.next else n.start })
  | none =>
    let plain := bytesOf (String.ofList (List.replicate (n.width + n.separator.utf8ByteSize) ' '))
    let withNumber := (bytesOf (n.shown s.next) ++ line ++ [10], { s with next := s.next + n.step })
    let without := (plain ++ line ++ [10], s)
    match n.linesOf s.part with
    | .none_ => without
    | .notEmpty => if line.isEmpty then without else withNumber
    | .all =>
      if n.together ≤ 1 then withNumber
      else if !line.isEmpty || s.empties + 1 = n.together then
        (withNumber.1, { withNumber.2 with empties := 0 })
      else (without.1, { s with empties := s.empties + 1 })
    | .fitting e =>
      let subject : Expression.Subject := { chars := (decodeUtf8 line).toArray }
      if (Expression.find? subject e 0).isSome then withNumber else without

/-- Numbers lines. -/
def lines (n : Numbering) (s : Numbered) (bytes : List UInt8) : List UInt8 × Numbered :=
  let (shown, s) := (recordsOf 10 bytes).foldl (fun (shown, s) line =>
    let (more, s) := n.line s line
    (more :: shown, s)) (([] : List (List UInt8)), s)
  (shown.reverse.flatten, s)

/-- A number that an option gives, or what is wrong with it. -/
def numberGiven (o : Options) (letter : Char) (what : String) (least : Int) (usual : Int) :
    Except String Int :=
  match o.value? letter with
  | none => .ok usual
  | some text =>
    let (isNegative, digits) := match text.toList with
      | '-' :: rest => (true, rest)
      | '+' :: rest => (false, rest)
      | rest => (false, rest)
    if digits.isEmpty || !digits.all isAsciiDigit then .error (what ++ ": " ++ quoted text)
    else
      let size : Int := (asciiValue digits : Nat)
      let value := if isNegative then -size else size
      if value < least then
        .error (what ++ ": " ++ quoted text ++ ": Numerical result out of range")
      else .ok value

/-- The lines that an option asks for, or what is wrong with it. -/
def linesGiven (o : Options) (letter : Char) (what : String) (usual : NumberedLines) :
    Except String NumberedLines :=
  match o.value? letter with
  | none => .ok usual
  | some text => match NumberedLines.read? text with
    | some lines => .ok lines
    | none => .error ("invalid " ++ what ++ " numbering style: " ++ quoted text ++
      "\nTry 'nl --help' for more information.")

/-- The signs that a text gives; one alone goes before the usual second one. -/
def signsOf (text : String) : List Char :=
  match text.toList with
  | [only] => [only, ':']
  | signs => signs

/-- The numbering that options ask for. -/
def ofOptions (o : Options) : Except String Numbering := do
  let lowest : Int := -9223372036854775808
  let header ← linesGiven o 'h' "header" .none_
  let body ← linesGiven o 'b' "body" .notEmpty
  let footer ← linesGiven o 'f' "footer" .none_
  let start ← numberGiven o 'v' "invalid starting line number" lowest 1
  let step ← numberGiven o 'i' "invalid line number increment" lowest 1
  let together ← numberGiven o 'l' "invalid line number of blank lines" 1 1
  let width ← numberGiven o 'w' "invalid line number field width" 1 6
  let format := (o.value? 'n').getD "rn"
  if !(["rn", "ln", "rz"].contains format) then
    throw ("invalid line numbering format: " ++ quoted format ++
      "\nTry 'nl --help' for more information.")
  return { header, body, footer, start, step, together := together.toNat, width := width.toNat, format
           signs := (o.value? 'd').elim ['\\', ':'] signsOf
           separator := (o.value? 's').getD "\t", goesOn := o.has 'p' }

end Numbering

/-- Prints lines with their numbers; empty lines have none unless they are asked for. -/
def nl : Tool :=
  withOptions
    { tool := "nl", plain := ['p'], valued := "bdfhilnsvw".toList
      long := [("header-numbering", 'h'), ("body-numbering", 'b'), ("footer-numbering", 'f'),
        ("starting-line-number", 'v'), ("line-increment", 'i'), ("no-renumber", 'p'),
        ("join-blank-lines", 'l'), ("number-separator", 's'), ("number-width", 'w'),
        ("number-format", 'n'), ("section-delimiter", 'd')] } fun o m =>
  match Numbering.ofOptions o with
  | .error what => (1, m.complain ("nl: " ++ what))
  | .ok n =>
    let (status, _, m) := overNamedWith o.operands (complainOf "nl")
      (fun s _ bytes => n.lines s bytes) ({ next := n.start } : Numbered) m
    (status, m)

/-! ## Lines cut to a width -/

/-- How lines are cut. -/
structure Cutting where
  width : Nat := 80
  countsBytes : Bool := false
  /-- Whether lines are cut behind blanks if they can be. -/
  atBlanks : Bool := false

/-- A line that is not full: its bytes, the latest first, and how wide they are. -/
structure Unfilled where
  bytes : List UInt8 := []
  column : Nat := 0

namespace Cutting

/-- The column behind a byte. -/
def columnAfter (c : Cutting) (column : Nat) (b : UInt8) : Nat :=
  if c.countsBytes then column + 1
  else if b == 8 then column - 1
  else if b == 13 then 0
  else if b == 9 then column + 8 - column % 8
  else column + 1

/-- Puts a byte on a line, or on the next one if there is no room left. -/
def put (c : Cutting) (s : Unfilled) (b : UInt8) : List UInt8 × Unfilled :=
  let column := c.columnAfter s.column b
  if column ≤ c.width || s.bytes.isEmpty then ([], ⟨b :: s.bytes, column⟩)
  else (s.bytes.reverse ++ [10], ⟨[b], c.columnAfter 0 b⟩)

/-- Goes on with a byte. -/
def step (c : Cutting) (s : Unfilled) (b : UInt8) : List UInt8 × Unfilled :=
  if b == 10 then (s.bytes.reverse ++ [10], {})
  else if c.atBlanks && c.width < c.columnAfter s.column b && s.bytes.any isBlankByte then
    let behind := s.bytes.takeWhile (!isBlankByte ·)
    let before := s.bytes.drop behind.length
    let (more, s) := c.put ⟨behind, behind.reverse.foldl c.columnAfter 0⟩ b
    (before.reverse ++ [10] ++ more, s)
  else c.put s b

/-- Cuts the lines of bytes. -/
def cut (c : Cutting) (bytes : List UInt8) : List UInt8 :=
  let (shown, s) := bytes.foldl (fun (shown, s) b =>
    let (more, s) := c.step s b
    (more.reverse ++ shown, s)) (([] : List UInt8), ({} : Unfilled))
  shown.reverse ++ s.bytes.reverse

end Cutting

/-- The digits. -/
def digitLetters : List Char :=
  "0123456789".toList

/-- The number that options give by its digits alone, the last one that was given. -/
def digitsGiven? (o : Options) : Option String :=
  ((o.given.filter fun (letter, _) => digitLetters.contains letter).getLast?).map
    fun (letter, rest) => String.singleton letter ++ rest

/-- Prints lines in pieces that are no wider than a width. -/
def fold : Tool :=
  withOptions
    { tool := "fold", plain := ['b', 's'], valued := ['w'], attached := digitLetters
      long := [("bytes", 'b'), ("spaces", 's'), ("width", 'w')] } fun o m =>
  match (o.value? 'w' <|> digitsGiven? o).elim (.ok 80) (readCount []) with
  | .error fault =>
    (1, m.complain ("fold: " ++
      fault.message "invalid number of columns" ((o.value? 'w').getD "")))
  | .ok 0 =>
    (1, m.complain ("fold: invalid number of columns: " ++
      quoted ((o.value? 'w' <|> digitsGiven? o).getD "") ++ ": Numerical result out of range"))
  | .ok width =>
    let c : Cutting := { width, countsBytes := o.has 'b', atBlanks := o.has 's' }
    overNamed o.operands (complainOf "fold") (fun _ bytes => c.cut bytes) m

/-! ## Stops -/

/-- Where the stops of tabs are: at the places of a list, and behind them at equal distances, counted from
the beginning of the line or from the last place of the list, or nowhere. -/
structure Stops where
  places : List Nat := []
  every : Option Nat := none
  onward : Option Nat := none
deriving Repr, DecidableEq

namespace Stops

/-- Why a text gives no stops. -/
inductive Fault where
  | badSign (rest : String)
  | zero
  | notAscending
deriving Repr, DecidableEq

/-- What is said of a text that gives no stops. -/
def Fault.message : Fault → String
  | badSign rest => "tab size contains invalid character(s): " ++ quoted rest
  | zero => "tab size cannot be 0"
  | notAscending => "tab sizes must be ascending"

/-- The next stop behind a column, if there is one. -/
def next? (s : Stops) (column : Nat) : Option Nat :=
  match s.places.find? (column < ·), s.every, s.onward with
  | some place, _, _ => some place
  | none, some size, _ => some (column + (size - column % size))
  | none, none, some size =>
    some (column + (size - (column - (s.places.getLast?).getD 0) % size))
  | none, none, none => none

/-- The stops that a text gives behind those that are given. -/
def readFrom : Nat → Stops → List Char → Except Fault Stops
  | 0, s, _ => .ok s
  | fuel + 1, s, text =>
    match text with
    | [] => .ok s
    | c :: rest =>
      if c == ',' || c == ' ' || c == '\t' then readFrom fuel s rest
      else
        let (isEvery, isOnward) := (c == '/', c == '+')
        let digits := if isEvery || isOnward then rest else text
        match takeAsciiDigits digits with
        | ([], _) => .error (.badSign (String.ofList text))
        | (number, rest) =>
          let n := asciiValue number
          if n = 0 then .error .zero
          else if isEvery then readFrom fuel { s with every := some n } rest
          else if isOnward then readFrom fuel { s with onward := some n } rest
          else if s.places.any (n ≤ ·) then .error .notAscending
          else readFrom fuel { s with places := s.places ++ [n] } rest

/-- The stops that texts give; one place alone stands for a distance. -/
def read (texts : List String) : Except Fault Stops := do
  let s ← texts.foldlM (fun s text => readFrom (text.length + 1) s text.toList) {}
  return match s.places, s.every, s.onward with
    | [], none, none => { every := some 8 }
    | [], none, some n => { every := some n }
    | [n], none, none => { every := some n }
    | _, _, _ => s

/-- The stops that options give. -/
def ofOptions (o : Options) : Except Fault Stops :=
  read (o.given.filterMap fun (letter, value) =>
    if letter == 't' then some value
    else if digitLetters.contains letter then some (String.singleton letter ++ value)
    else none)

/-- Bytes with blanks in the places of tabs, perhaps of those at the front of lines only; `column` is where
they begin. -/
def spread (s : Stops) (atFront : Bool) : (isFront : Bool) → (column : Nat) → List UInt8 → List UInt8
  | _, _, [] => []
  | isFront, column, b :: rest =>
    if b == 10 then b :: s.spread atFront true 0 rest
    else if atFront && !isFront then b :: s.spread atFront false (column + 1) rest
    else if b == 9 then
      let there := (s.next? column).getD (column + 1)
      List.replicate (there - column) 32 ++ s.spread atFront isFront there rest
    else if b == 8 then b :: s.spread atFront (isFront && isBlankByte b) (column - 1) rest
    else b :: s.spread atFront (isFront && isBlankByte b) (column + 1) rest

end Stops

/-- Blanks that may become tabs. -/
structure Gathering where
  column : Nat := 0
  /-- The blanks that wait, in order. -/
  blanks : List UInt8 := []
  /-- Whether blanks are still to be gathered on the line. -/
  isOn : Bool := true
  isBehindBlank : Bool := true
  /-- Whether a single blank stands directly before the last stop. -/
  isBeforeStop : Bool := false

namespace Gathering

/-- The blanks that wait, as they are printed before something else. -/
def released (g : Gathering) : List UInt8 :=
  if 1 < g.blanks.length && g.isBeforeStop then 9 :: g.blanks.drop 1 else g.blanks

/-- Goes past a byte behind the blanks that wait. -/
def pass (g : Gathering) (inWhole : Bool) (b : UInt8) : List UInt8 × Gathering :=
  let isBlank := isBlankByte b
  (g.released ++ [b],
    if b == 10 then {}
    else { g with blanks := [], isBeforeStop := if g.blanks.isEmpty then g.isBeforeStop else false
                  isBehindBlank := isBlank, isOn := inWhole || isBlank })

/-- Goes on with a byte. -/
def step (s : Stops) (inWhole : Bool) (g : Gathering) (b : UInt8) : List UInt8 × Gathering :=
  if !g.isOn then ([b], if b == 10 then {} else g)
  else if isBlankByte b then
    match s.next? g.column with
    | none => { g with isOn := false }.pass false b |> fun (shown, g) => (shown, { g with isOn := false })
    | some there =>
      let kept := fun (blanks : List UInt8) => if g.isBeforeStop then blanks.take 1 else []
      if b == 9 then
        let blanks := if g.blanks.isEmpty then [] else 9 :: g.blanks.drop 1
        { g with column := there, blanks := kept blanks }.pass inWhole 9
      else
        let column := g.column + 1
        if g.isBehindBlank && column == there then
          { g with column, blanks := kept (9 :: g.blanks.drop 1) }.pass inWhole 9
        else
          ([], { g with column, blanks := g.blanks ++ [b], isBehindBlank := true
                        isBeforeStop := g.isBeforeStop || column == there })
  else if b == 8 then { g with column := g.column - 1 }.pass inWhole b
  else { g with column := g.column + 1 }.pass inWhole b

/-- Bytes with tabs in the places of blanks. -/
def gather (s : Stops) (inWhole : Bool) (bytes : List UInt8) : List UInt8 :=
  let (shown, g) := bytes.foldl (fun (shown, g) b =>
    let (more, g) := step s inWhole g b
    (more.reverse ++ shown, g)) (([] : List UInt8), ({} : Gathering))
  shown.reverse ++ g.released

end Gathering

/-- Prints blanks in the places of tabs. -/
def expandTabs : Tool :=
  withOptions
    { tool := "expand", plain := ['i'], valued := ['t'], attached := digitLetters
      long := [("initial", 'i'), ("tabs", 't')] } fun o m =>
  match Stops.ofOptions o with
  | .error fault => (1, m.complain ("expand: " ++ fault.message))
  | .ok stops =>
    overNamed o.operands (complainOf "expand")
      (fun _ bytes => stops.spread (o.has 'i') true 0 bytes) m

/-- Prints tabs in the places of blanks, at the front of lines or everywhere. -/
def gatherTabs : Tool :=
  withOptions
    { tool := "unexpand", plain := ['a', 'f'], valued := ['t'], attached := digitLetters
      long := [("tabs", 't'), ("all", 'a'), ("first-only", 'f')] } fun o m =>
  match Stops.ofOptions o with
  | .error fault => (1, m.complain ("unexpand: " ++ fault.message))
  | .ok stops =>
    let inWhole := (o.has 'a' || o.has 't') && !o.has 'f'
    overNamed o.operands (complainOf "unexpand")
      (fun _ bytes => Gathering.gather stops inWhole bytes) m

end ProjectCheck.Shell
