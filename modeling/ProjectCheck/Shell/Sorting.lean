import ProjectCheck.Shell.Order

/-!
# Sorting lines

Lines are ordered by keys, which are the whole line if none is asked for.  A key reaches from a
character of one field to a character of another.  Lines whose keys are all the same are ordered by their
bytes, unless they are to stay as they came.
-/

namespace ProjectCheck.Shell

open ProjectCheck.Disk ProjectCheck.Number ProjectCheck.Text

/-! ## Keys -/

/-- From where to where a key reaches and how it is compared.  It begins behind a number of fields and a
number of characters of the next; it ends behind a number of fields, or that many and a number of characters
of the next, and with the line if it has no end. -/
structure SortKey where
  fields : Nat := 0
  chars : Nat := 0
  lastFields : Option Nat := none
  lastChars : Nat := 0
  manner : OrderManner := {}
deriving Repr, DecidableEq

/-- Why a text is no key. -/
inductive SortKeyFault where
  | noNumber (what rest : String)
  | zeroField
  | zeroChar
  | stray
deriving Repr, DecidableEq

/-- What is said of a text that is no key. -/
def SortKeyFault.message (text : String) : SortKeyFault → String
  | noNumber what rest => what ++ ": invalid count at start of " ++ quoted rest
  | zeroField => "field number is zero: invalid field specification " ++ quoted text
  | zeroChar => "character offset is zero: invalid field specification " ++ quoted text
  | stray => "stray character in field spec: invalid field specification " ++ quoted text

namespace SortKey

/-- The manner with what a letter asks for, if it asks for something; blanks are skipped at the beginning of
a key, at its end, or at both. -/
def withLetter? (atFirst atLast : Bool) (manner : OrderManner) (letter : Char) : Option OrderManner :=
  match letter with
  | 'b' =>
    some { manner with skipsFirst := manner.skipsFirst || atFirst
                       skipsLast := manner.skipsLast || atLast }
  | 'd' => some { manner with isDictionary := true }
  | 'f' => some { manner with isFolded := true }
  | 'g' => some { manner with way := .reals }
  | 'h' => some { manner with way := .sizes }
  | 'i' => some { manner with isShownOnly := true }
  | 'M' => some { manner with way := .months }
  | 'n' => some { manner with way := .numbers }
  | 'r' => some { manner with isReverse := true }
  | 'V' => some { manner with way := .versions }
  | 'R' => some manner
  | _ => none

/-- The manner that the letters at the front of a text ask for, and what stands behind them. -/
def takeLetters (atFirst atLast : Bool) (manner : OrderManner) : List Char → OrderManner × List Char
  | [] => (manner, [])
  | c :: rest =>
    match withLetter? atFirst atLast manner c with
    | some manner => takeLetters atFirst atLast manner rest
    | none => (manner, c :: rest)

/-- The number at the front of a text. -/
def takeNumber (what : String) (s : List Char) : Except SortKeyFault (Nat × List Char) :=
  match takeAsciiDigits s with
  | ([], rest) => .error (.noNumber what (String.ofList rest))
  | (digits, rest) => .ok (asciiValue digits, rest)

/-- The key that a text asks for. -/
def read (text : String) : Except SortKeyFault SortKey := do
  let (field, rest) ← takeNumber "invalid number at field start" text.toList
  if field = 0 then throw .zeroField
  let (char, rest) ← match rest with
    | '.' :: rest =>
      let (char, rest) ← takeNumber "invalid number after '.'" rest
      if char = 0 then throw .zeroChar
      pure (char, rest)
    | _ => pure (1, rest)
  let (manner, rest) := takeLetters true false {} rest
  let key : SortKey := { fields := field - 1, chars := char - 1, manner }
  match rest with
  | ',' :: rest =>
    let (field, rest) ← takeNumber "invalid number after ','" rest
    if field = 0 then throw .zeroField
    let (char, rest) ← match rest with
      | '.' :: rest => takeNumber "invalid number after '.'" rest
      | _ => pure (0, rest)
    let (manner, rest) := takeLetters false true manner rest
    if !rest.isEmpty then throw .stray
    return { key with lastFields := some (if char = 0 then field else field - 1), lastChars := char, manner }
  | [] => return key
  | _ => throw .stray

/-- What stands behind a number of fields, each with its separator; without one a field has the blanks in
front of it. -/
def behindFields (separator : Option UInt8) : Nat → List UInt8 → List UInt8
  | 0, line => line
  | n + 1, line =>
    match separator with
    | some b => behindFields separator n ((line.dropWhile (· != b)).drop 1)
    | none =>
      behindFields separator n ((line.dropWhile isBlankByte).dropWhile (!isBlankByte ·))

/-- How many bytes a number of fields have with the separators between them. -/
def sizeOfFields (separator : Option UInt8) : Nat → List UInt8 → Nat
  | 0, _ => 0
  | n + 1, line =>
    let field := match separator with
      | some b => line.takeWhile (· != b)
      | none =>
        let gap := line.takeWhile isBlankByte
        gap ++ (line.drop gap.length).takeWhile (!isBlankByte ·)
    let gap := if separator.isSome && 0 < n && field.length < line.length then 1 else 0
    field.length + gap + sizeOfFields separator n (line.drop (field.length + gap))

/-- How many bytes of a line stand in front of the end of a key. -/
def endOf (separator : Option UInt8) (key : SortKey) (line : List UInt8) : Nat :=
  match key.lastFields with
  | none => line.length
  | some n =>
    if key.lastChars = 0 then sizeOfFields separator n line
    else
      let behind := behindFields separator n line
      let gap := if key.manner.skipsLast then (behind.takeWhile isBlankByte).length else 0
      Nat.min line.length (line.length - behind.length + gap + key.lastChars)

/-- The part of a line that a key takes. -/
def part (separator : Option UInt8) (key : SortKey) (line : List UInt8) : List UInt8 :=
  let behind := behindFields separator key.fields line
  let behind := if key.manner.skipsFirst then behind.dropWhile isBlankByte else behind
  let begin_ := Nat.min line.length (line.length - behind.length + key.chars)
  (line.take (key.endOf separator line)).drop begin_

end SortKey

/-! ## Lines in order -/

/-- How lines are sorted. -/
structure Sorting where
  keys : List SortKey := [{}]
  separator : Option UInt8 := none
  isReverse : Bool := false
  /-- Whether lines whose keys are the same stay as they came. -/
  isStable : Bool := false
  /-- Whether of lines whose keys are the same only the first stays. -/
  isUnique : Bool := false

namespace Sorting

/-- The order of two lines by their keys. -/
def byKeys (s : Sorting) (a b : List UInt8) : Ordering :=
  s.keys.foldl (fun (order : Ordering) key =>
    order.then (key.manner.compare (key.part s.separator a) (key.part s.separator b))) .eq

/-- The order of two lines. -/
def compare (s : Sorting) (a b : List UInt8) : Ordering :=
  if s.isStable || s.isUnique then s.byKeys a b
  else (s.byKeys a b).then (if s.isReverse then Ord.compare b a else Ord.compare a b)

/-- Lines of which no two that follow each other have the same keys. -/
def withoutNeighbours (s : Sorting) (lines : List (List UInt8)) : List (List UInt8) :=
  if !s.isUnique then lines
  else
    (lines.foldl (fun kept line =>
      match kept with
      | previous :: _ => if (s.byKeys previous line).isEq then kept else line :: kept
      | [] => [line]) []).reverse

/-- Lines in order. -/
def sorted (s : Sorting) (lines : List (List UInt8)) : List (List UInt8) :=
  s.withoutNeighbours (lines.mergeSort fun a b => (s.compare a b).isLE)

/-- Lists of lines that are in order, in one list. -/
def merged (s : Sorting) (files : List (List (List UInt8))) : List (List UInt8) :=
  s.withoutNeighbours
    (files.foldl (fun all lines => List.merge all lines fun a b => (s.compare a b).isLE) [])

/-- The first line that is not in order, with its place, counted from one. -/
def disorder? (s : Sorting) (lines : List (List UInt8)) : Option (Nat × List UInt8) :=
  ((lines.zip (lines.drop 1)).zipIdx.find? fun ((a, b), _) =>
    let order := s.compare a b
    order.isGT || (s.isUnique && order.isEq)).map fun ((_, b), i) => (i + 2, b)

end Sorting

/-! ## The tool -/

/-- The options of `sort`. -/
def sortForm : OptionForm :=
  { tool := "sort", plain := "bcCdfghiMmnRrsuVz".toList, valued := ['k', 'o', 't', 'S', 'T', 'σ', 'π']
    long := [("ignore-leading-blanks", 'b'), ("check", 'c'), ("compress-program", 'π'),
      ("dictionary-order", 'd'), ("ignore-case", 'f'), ("general-numeric-sort", 'g'),
      ("ignore-nonprinting", 'i'), ("key", 'k'), ("merge", 'm'), ("month-sort", 'M'),
      ("numeric-sort", 'n'), ("human-numeric-sort", 'h'), ("version-sort", 'V'), ("random-sort", 'R'),
      ("random-source", 'π'), ("sort", 'σ'), ("output", 'o'), ("reverse", 'r'), ("stable", 's'),
      ("batch-size", 'π'), ("buffer-size", 'S'), ("field-separator", 't'), ("temporary-directory", 'T'),
      ("unique", 'u'), ("zero-terminated", 'z'), ("parallel", 'π')]
    free := ['c'], faultStatus := 2 }

/-- The letters for the orders that have a name. -/
def orderNames : List (String × Char) :=
  [("general-numeric", 'g'), ("human-numeric", 'h'), ("month", 'M'), ("numeric", 'n'), ("random", 'R'),
    ("version", 'V')]

/-- The letters of the manners that a manner asks for, in order. -/
def OrderManner.letters (manner : OrderManner) : List Char :=
  let when := fun (isSo : Bool) (letter : Char) => if isSo then [letter] else []
  when manner.isDictionary 'd' ++ when manner.isFolded 'f' ++ when (manner.way = .reals) 'g' ++
    when (manner.way = .sizes) 'h' ++ when (manner.isShownOnly && !manner.isDictionary) 'i' ++
    when (manner.way = .months) 'M' ++ when (manner.way = .numbers) 'n' ++
    when (manner.way = .versions) 'V'

/-- The separator of fields that a text gives, or what is wrong with it. -/
def fieldSeparator (text : String) : Except String UInt8 :=
  match bytesOf text with
  | [] => .error "empty tab"
  | [b] => .ok b
  | _ => if text == "\\0" then .ok 0 else .error ("multi-character tab " ++ quoted text)

/-- The sorting that options ask for, or what is wrong with them. -/
def Sorting.ofOptions (o : Options) : Except String Sorting := do
  let letters := o.given.flatMap fun (letter, value) =>
    if letter == 'σ' then (orderNames.lookup value).toList else [letter]
  let common := letters.foldl (fun manner letter =>
    (SortKey.withLetter? true true manner letter).getD manner) ({} : OrderManner)
  let own ← (o.values 'k').mapM fun text =>
    match SortKey.read text with
    | .ok key => .ok { key with manner := if key.manner = {} then common else key.manner }
    | .error fault => .error (fault.message text)
  let separators ← (o.values 't').mapM fieldSeparator
  let keys := if own.isEmpty then [{ manner := common }] else own
  let ways := letters.filter "ghMnRV".toList.contains
  let clashes := fun (manner : OrderManner) =>
    manner.way ≠ .bytes && (manner.isDictionary || manner.isShownOnly)
  if own.isEmpty && 1 < ways.eraseDups.length then
    let shown := "dfghiMnRV".toList.filter letters.contains
    throw ("options '-" ++ String.ofList shown ++ "' are incompatible")
  match keys.find? fun key => clashes key.manner with
  | some key => throw ("options '-" ++ String.ofList key.manner.letters ++ "' are incompatible")
  | none => pure ()
  return { keys, separator := separators.getLast?, isReverse := common.isReverse
           isStable := o.has 's', isUnique := o.has 'u' }

/-- Writes what has been sorted, to a file if one is named. -/
def writeSorted (target : Option String) (bytes : List UInt8) (m : Machine) : Nat × Machine :=
  match target with
  | none => (0, m.print bytes)
  | some path =>
    let refuse := fun (why : Obstruction) =>
      (2, m.complain ("sort: open failed: " ++ citedIfOdd path ++ ": " ++ why.message))
    match canonical? m.disk m.directory path with
    | none => refuse .endlessLinks
    | some location =>
      match m.disk.at? location, m.disk.at? location.dropLast with
      | some (.directory _), _ => refuse .isDirectory
      | _, some (.directory _) => if path.isEmpty then refuse .missing else (0, m.place location (.file bytes))
      | _, _ => refuse (absence m path)

/-- Prints lines in order, or finds out whether they are. -/
def sort : Tool := withOptions sortForm fun o m =>
  let fail := fun (what : String) => (2, m.complain ("sort: " ++ what))
  let names := if o.operands.isEmpty then ["-"] else o.operands
  let isCheck := o.has 'c' || o.has 'C'
  let isQuiet := o.has 'C' || ["quiet", "silent"].contains ((o.value? 'c').getD "")
  match Sorting.ofOptions o with
  | .error what => fail what
  | .ok s =>
    match o.operands with
    | _ :: extra :: _ =>
      if isCheck then
        fail ("extra operand " ++ quoted extra ++ " not allowed with -" ++ if isQuiet then "C" else "c")
      else run o s isCheck isQuiet names m
    | _ => run o s isCheck isQuiet names m
where
  /-- Sorts what is named. -/
  run (o : Options) (s : Sorting) (isCheck isQuiet : Bool) (names : List String) (m : Machine) :
      Nat × Machine :=
    let files : Except (String × Obstruction) (List (List UInt8)) := names.mapM fun name =>
      match bytesNamed m name with
      | .ok bytes => .ok bytes
      | .error why => .error (name, why)
    match files with
    | .error (name, why) =>
      (2, m.complain ((if why = .isDirectory then "sort: read failed: " else "sort: cannot read: ") ++
        citedIfOdd name ++ ": " ++ why.message))
    | .ok files =>
      let m := names.foldl afterReading m
      let mark := o.recordEnd
      let lists := files.map (recordsOf mark)
      if isCheck then
        match s.disorder? lists.flatten with
        | none => (0, m)
        | some (place, line) =>
          (1, if isQuiet then m
            else m.complain ("sort: " ++ names.headD "-" ++ ":" ++ toString place ++ ": disorder: " ++
              stringOfBytes line))
      else
        let lines := if o.has 'm' then s.merged lists else s.sorted lists.flatten
        writeSorted (o.value? 'o') (lines.flatMap (· ++ [mark])) m

/-! ## Lines in common -/

/-- Where two sorted files are compared: what is left of them, the lines taken off last, whether a line has
been found that stands in one of them alone, and which of them are known not to be in order. -/
structure Collation where
  first : List (List UInt8)
  second : List (List UInt8)
  firstTaken : List (List UInt8) := []
  secondTaken : List (List UInt8) := []
  isUneven : Bool := false
  firstFaulty : Bool := false
  secondFaulty : Bool := false

namespace Collation

/-- Whether the line at the front of a list, or at its end the last one, comes before the one before it. -/
def isFaulty (taken left : List (List UInt8)) : Bool :=
  match left, taken with
  | next :: _, previous :: _ => (Ord.compare previous next).isGT
  | [], b :: a :: _ => (Ord.compare a b).isGT
  | _, _ => false

/-- Notes which of the files are seen not to be in order, and what is said of them. -/
def check (always : Bool) (steppedFirst steppedSecond : Bool) (c : Collation) :
    Collation × List String :=
  let isDue := always || c.isUneven
  let first := isDue && steppedFirst && !c.firstFaulty && isFaulty c.firstTaken c.first
  let second := isDue && steppedSecond && !c.secondFaulty && isFaulty c.secondTaken c.second
  ({ c with firstFaulty := c.firstFaulty || first, secondFaulty := c.secondFaulty || second },
    (if first then ["comm: file 1 is not in sorted order"] else []) ++
      if second then ["comm: file 2 is not in sorted order"] else [])

/-- Goes past the line that comes first, or past one of each if they are the same: the column in which it
stands and the line. -/
def step? (c : Collation) : Option (Nat × List UInt8 × Collation) :=
  let takeFirst := fun (c : Collation) =>
    { c with first := c.first.drop 1, firstTaken := c.first.take 1 ++ c.firstTaken.take 1 }
  let takeSecond := fun (c : Collation) =>
    { c with second := c.second.drop 1, secondTaken := c.second.take 1 ++ c.secondTaken.take 1 }
  match c.first, c.second with
  | [], [] => none
  | a :: _, [] => some (1, a, takeFirst { c with isUneven := true })
  | [], b :: _ => some (2, b, takeSecond { c with isUneven := true })
  | a :: _, b :: _ =>
    some (match Ord.compare a b with
      | .lt => (1, a, takeFirst { c with isUneven := true })
      | .gt => (2, b, takeSecond { c with isUneven := true })
      | .eq => (3, a, takeFirst (takeSecond c)))

end Collation

/-- How the lines of two files are shown. -/
structure CollationForm where
  hidden : List Nat
  separator : List UInt8
  mark : UInt8
  /-- Whether the order of lines is watched from the beginning, never, or from the first line on that stands
  in one file alone. -/
  watch : Option Bool

/-- Shows the lines of two files in three columns; counts them; and stops where a file is not in order, if
that is watched from the beginning. -/
def CollationForm.run (f : CollationForm) : Nat → List Nat → Collation → Machine →
    List Nat × Collation × Machine
  | 0, counts, c, m => (counts, c, m)
  | fuel + 1, counts, c, m =>
    match c.step? with
    | none => (counts, c, m)
    | some (column, line, c) =>
      let indents := ((List.range' 1 (column - 1)).filter (!f.hidden.contains ·)).length
      let m := if f.hidden.contains column then m
        else m.print ((List.replicate indents f.separator).flatten ++ line ++ [f.mark])
      let counts := counts.zipIdx.map fun (n, i) => if i + 1 = column then n + 1 else n
      let (c, said) := if f.watch = some false then (c, [])
        else c.check (f.watch = some true) (column != 2) (column != 1)
      let m := said.foldl Machine.complain m
      if f.watch = some true && (c.firstFaulty || c.secondFaulty) then (counts, c, m)
      else f.run fuel counts c m

/-- The options of `comm`. -/
def commForm : OptionForm :=
  { tool := "comm", plain := "123zχνθ".toList, valued := ['δ']
    long := [("check-order", 'χ'), ("nocheck-order", 'ν'), ("output-delimiter", 'δ'), ("total", 'θ'),
      ("zero-terminated", 'z')] }

/-- Prints which lines two sorted files have for themselves and in common, in three columns. -/
def comm : Tool := withOptions commForm fun o m =>
  match o.operands with
  | [] => refuseWith "comm" "missing operand" m
  | [only] => refuseWith "comm" ("missing operand after " ++ quoted only) m
  | _ :: _ :: extra :: _ => refuseWith "comm" ("extra operand " ++ quoted extra) m
  | [first, second] =>
    match bytesNamed m first, bytesNamed m second with
    | .error why, _ => (1, complainOf "comm" first why m)
    | _, .error why => (1, complainOf "comm" second why m)
    | .ok a, .ok b =>
      let mark := o.recordEnd
      let (as, bs) := (recordsOf mark a, recordsOf mark b)
      let f : CollationForm :=
        { hidden := [1, 2, 3].filter fun n => o.has (Char.ofNat (48 + n)), mark
          separator := match o.value? 'δ' with
            | some "" => [0]
            | some s => bytesOf s
            | none => [9]
          watch := if o.has 'χ' then some true else if o.has 'ν' then some false else none }
      let m := afterReading (afterReading m first) second
      let (counts, c, m) := f.run (as.length + bs.length + 1) [0, 0, 0] { first := as, second := bs } m
      if f.watch = some true && (c.firstFaulty || c.secondFaulty) then (1, m)
      else
        let m := if o.has 'θ' then
            m.print (f.separator.intercalate (counts.map (fun n => bytesOf (toString n)) ++
              [bytesOf "total"]) ++ [mark])
          else m
        if c.firstFaulty || c.secondFaulty then (1, m.complain "comm: input is not in sorted order")
        else (0, m)

end ProjectCheck.Shell
