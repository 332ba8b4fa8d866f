import ProjectCheck.Shell.Reading

/-!
# Tools for lines

Tools that take files, or the input where none is named, as lines of bytes, and print some of them, print
them in another order or side by side, or count them.
-/

namespace ProjectCheck.Shell

open ProjectCheck.Disk ProjectCheck.Number ProjectCheck.Text

/-! ## Ends -/

/-- How much of something is asked for. -/
inductive Amount where
  | lines (n : Nat)
  | bytes (n : Nat)
  /-- All lines but so many. -/
  | otherLines (n : Nat)
  | otherBytes (n : Nat)
deriving Repr, DecidableEq

/-- The letters of the units of amounts. -/
def amountLetters : List Char :=
  "bkKmMGTPEZY".toList

/-- The amount that a number asks for.  For the beginning a dash in front of it stands for all but so
many, and for the end a plus does. -/
def amountOf (isEnd isBytes : Bool) (text : String) : Except CountFault Amount := do
  let s := text.toList
  let hasDash := s.head? == some '-'
  let isOther := if isEnd then s.head? == some '+' else hasDash
  let n ← readCount amountLetters (if hasDash then String.ofList (s.drop 1) else text)
  return match isOther, isBytes with
    | true, true => .otherBytes n
    | true, false => .otherLines n
    | false, true => .bytes n
    | false, false => .lines n

/-- Arguments of which the first is a sign and a number, in the longer form: letters behind the number say
what it counts, and some are options of their own. -/
def withLongCount (isEnd : Bool) (args : List String) : List String :=
  let longer := fun (lead : String) (body : List Char) (rest : List String) =>
    let (digits, letters) := takeAsciiDigits body
    let ofBytes := letters.any fun c => "bckm".toList.contains c
    let unit := letters.filter fun c => "bkm".toList.contains c
    let flags := letters.filter fun c => "fqvz".toList.contains c
    let known := if isEnd then "bclf" else "bckmqvz"
    if digits.isEmpty || !letters.all known.toList.contains then none
    else some ([if ofBytes then "-c" else "-n", lead ++ String.ofList (digits ++ unit)] ++
      flags.map (fun c => "-" ++ String.singleton c) ++ rest)
  match args with
  | first :: rest =>
    let found := match first.toList with
      | '-' :: body => longer "" body rest
      | '+' :: body => if isEnd && rest.length ≤ 1 then longer "+" body rest else none
      | _ => none
    found.getD args
  | [] => []

/-- The beginning of bytes. -/
def firstPart (mark : UInt8) (bytes : List UInt8) : Amount → List UInt8
  | .lines n => ((linesEndedBy mark bytes).take n).flatten
  | .bytes n => bytes.take n
  | .otherLines n =>
    let lines := linesEndedBy mark bytes
    (lines.take (lines.length - n)).flatten
  | .otherBytes n => bytes.take (bytes.length - n)

/-- The end of bytes; what is left out at the front is one less than the number that stands
behind a sign. -/
def lastPart (mark : UInt8) (bytes : List UInt8) : Amount → List UInt8
  | .lines n =>
    let lines := linesEndedBy mark bytes
    (lines.drop (lines.length - n)).flatten
  | .bytes n => bytes.drop (bytes.length - n)
  | .otherLines n => ((linesEndedBy mark bytes).drop (n - 1)).flatten
  | .otherBytes n => bytes.drop (n - 1)

/-- The options of the tools that print a part. -/
def partForm (isEnd : Bool) : OptionForm :=
  { tool := if isEnd then "tail" else "head", plain := (if isEnd then "fFqvz" else "qvz").toList
    valued := if isEnd then ['n', 'c', 's'] else ['n', 'c']
    long := [("bytes", 'c'), ("lines", 'n'), ("quiet", 'q'), ("silent", 'q'), ("verbose", 'v'),
      ("zero-terminated", 'z')] }

/-- The amount that options ask for: ten lines, unless they say otherwise; or what is wrong with them. -/
def amountGiven (isEnd : Bool) (o : Options) : Except String Amount :=
  match (o.given.filter fun (letter, _) => letter == 'n' || letter == 'c').getLast? with
  | none => .ok (.lines 10)
  | some (letter, text) =>
    let isBytes := letter == 'c'
    match amountOf isEnd isBytes text with
    | .ok amount => .ok amount
    | .error fault =>
      let shown := if text.toList.head? == some '-' then String.ofList (text.toList.drop 1) else text
      .error (fault.message ("invalid number of " ++ if isBytes then "bytes" else "lines") shown)

/-- Prints a part of each thing that is named; several things have their names above. -/
def printPart (isEnd : Bool) : Tool := fun args m =>
  let form := partForm isEnd
  withOptions form (fun o m =>
    match amountGiven isEnd o with
    | .error what => (1, m.complain (form.tool ++ ": " ++ what))
    | .ok amount =>
      let names := if o.operands.isEmpty then ["-"] else o.operands
      let isTitled := (names.length > 1 && !o.has 'q') || o.has 'v'
      let title := fun (name : String) (isFirst : Bool) =>
        if !isTitled then ""
        else (if isFirst then "" else "\n") ++ "==> " ++
          (if name == "-" then "standard input" else name) ++ " <==\n"
      let part := if isEnd then lastPart o.recordEnd else firstPart o.recordEnd
      let (status, _, m) := names.foldl (fun (status, isFirst, m) name =>
        match bytesNamed m name with
        | .ok bytes =>
          (status, false, (afterReading m name).print (bytesOf (title name isFirst) ++ part bytes amount))
        | .error .isDirectory =>
          (1, false, (m.say (title name isFirst)).complain
            (form.tool ++ ": error reading " ++ cited name ++ ": " ++ Obstruction.message .isDirectory))
        | .error why =>
          (1, isFirst, m.complain
            (form.tool ++ ": cannot open " ++ cited name ++ " for reading: " ++ why.message)))
        (0, true, m)
      (status, m)) (withLongCount isEnd args) m

/-- Prints the first lines or bytes.  Of an input that is a file, the rest can still be read. -/
def head : Tool := fun args m =>
  let (status, after) := printPart false args m
  let isWhole := (Options.read (partForm false) (withLongCount false args)).operands.isEmpty
  match isWhole, m.channel? 0, m.channelOf? 0 with
  | true, some ⟨.file location, position, appends⟩, some number =>
    let (_, taken) := printPart false args
      ({ m with printed := [] }.openChannel 1 { backing := .outside .output })
    let count := (taken.printedOn .output).length
    (status, after.setChannel number ⟨.file location, position + count, appends⟩)
  | _, _, _ => (status, after)

/-- Prints the last lines or bytes. -/
def tail : Tool := printPart true

/-! ## Other orders -/

/-- The parts of bytes between the places of a separator. -/
def partsBetween (separator : List UInt8) : (part : List UInt8) → List UInt8 → List (List UInt8)
  | part, [] => [part.reverse]
  | part, b :: rest =>
    if !separator.isEmpty && separator.isPrefixOf (b :: rest) then
      part.reverse :: partsBetween separator [] (rest.drop (separator.length - 1))
    else partsBetween separator (b :: part) rest
termination_by _ bytes => bytes.length

/-- Bytes with their records in reverse order; the separator belongs to the record before it, or to the one
behind it. -/
def reversedRecords (separator : List UInt8) (isInFront : Bool) (bytes : List UInt8) : List UInt8 :=
  let parts := partsBetween separator [] bytes
  let records := if isInFront then
      parts.head?.toList ++ (parts.drop 1).map (separator ++ ·)
    else parts.dropLast.map (· ++ separator) ++ parts.getLast?.toList
  records.reverse.flatten

/-- Prints lines in reverse order. -/
def tac : Tool :=
  withOptions
    { tool := "tac", plain := ['b', 'r'], valued := ['s']
      long := [("before", 'b'), ("regex", 'r'), ("separator", 's')] } fun o m =>
  let separator := bytesOf ((o.value? 's').getD "\n")
  if separator.isEmpty then (1, m.complain "tac: separator cannot be empty")
  else
    overNamed o.operands (fun name why m => m.complain (match why with
        | .isDirectory => "tac: " ++ citedIfOdd name ++ ": read error: " ++ why.message
        | _ => "tac: failed to open " ++ cited name ++ " for reading: " ++ why.message))
      (fun _ bytes => reversedRecords separator (o.has 'b') bytes) m

/-- Prints each line from its end to its beginning. -/
def rev : Tool := fun args =>
  overNamed args (fun name why m => m.complain (match why with
      | .isDirectory => "rev: " ++ name ++ ": " ++ why.message
      | _ => "rev: cannot open " ++ name ++ ": " ++ why.message))
    fun _ bytes =>
      (byteLines bytes).flatMap fun line =>
        bytesOf (String.ofList (decodeUtf8 (endless line)).reverse) ++
          (if line.getLast? == some 10 then [10] else [])

/-! ## Lines side by side -/

/-- The separators that a text gives, of which some are nothing. -/
def separatorsOf : List Char → List (List UInt8)
  | [] => []
  | '\\' :: c :: rest =>
    (match c with
      | 'n' => [10]
      | 't' => [9]
      | 'b' => [8]
      | 'f' => [12]
      | 'r' => [13]
      | 'v' => [11]
      | '0' => []
      | _ => bytesOf (String.singleton c)) :: separatorsOf rest
  | c :: rest => (bytesOf (String.singleton c)).map ([·]) ++ separatorsOf rest

/-- Texts with the separators between them in turn. -/
def joinedInTurn (separators : List (List UInt8)) (texts : List (List UInt8)) : List UInt8 :=
  (texts.zipIdx.map fun (text, i) =>
    if i + 1 == texts.length then text
    else text ++ (separators[i % separators.length]?).getD []).flatten

/-- The lines at one place of lists of lines, on a line of their own, and so on for all places. -/
def sideBySide (separators : List (List UInt8)) (mark : UInt8) (files : List (List (List UInt8))) :
    List UInt8 :=
  let rows := files.foldl (fun n lines => Nat.max n lines.length) 0
  (List.range rows).flatMap fun row =>
    joinedInTurn separators (files.map fun lines => (lines[row]?).getD []) ++ [mark]

/-- What is left of the input for one of the places that name it, where the places take turns. -/
def everyOther (places own : Nat) (lines : List (List UInt8)) : List (List UInt8) :=
  (lines.zipIdx.filter fun (_, i) => i % places == own).map (·.1)

/-- Prints files side by side, or each with its lines joined to one. -/
def paste : Tool :=
  withOptions
    { tool := "paste", plain := ['s', 'z'], valued := ['d']
      long := [("serial", 's'), ("delimiters", 'd'), ("zero-terminated", 'z')] } fun o m =>
  let separators := match separatorsOf ((o.value? 'd').getD "\t").toList with
    | [] => [[]]
    | some_ => some_
  let mark := o.recordEnd
  let names := if o.operands.isEmpty then ["-"] else o.operands
  if o.has 's' then
    overNamed names (complainOf "paste")
      (fun _ bytes => joinedInTurn separators (recordsOf mark bytes) ++ [mark]) m
  else
    let inputs := (names.filter (· == "-")).length
    let files : Except (String × Obstruction) (List (List (List UInt8))) := names.zipIdx.mapM fun (name, i) =>
      match bytesNamed m name with
      | .error why => .error (name, why)
      | .ok bytes =>
        let lines := recordsOf mark bytes
        .ok (if name == "-" then
            everyOther inputs (((names.take i).filter (· == "-")).length) lines
          else lines)
    match files with
    | .error (name, why) => (1, complainOf "paste" name why m)
    | .ok files =>
      (0, (if inputs = 0 then m else m.withoutInput).print (sideBySide separators mark files))

/-! ## Repeated lines -/

/-- Neighbours that count as the same, in lists of their own. -/
def neighbourGroups {α : Type} (same : α → α → Bool) : List α → List (List α)
  | [] => []
  | x :: rest =>
    match neighbourGroups same rest with
    | (y :: group) :: others => if same x y then (x :: y :: group) :: others else [x] :: (y :: group) :: others
    | others => [x] :: others

/-- What is left of a line without its first fields. -/
def withoutFields : Nat → List UInt8 → List UInt8
  | 0, line => line
  | n + 1, line =>
    let isGap := fun (b : UInt8) => b == 32 || b == 9 || b == 10
    withoutFields n ((line.dropWhile isGap).dropWhile (!isGap ·))

/-- A byte as the capital of its letter. -/
def capitalByte (b : UInt8) : UInt8 :=
  if 97 ≤ b && b ≤ 122 then b - 32 else b

/-- Where an empty line stands beside groups. -/
inductive GroupGap where
  | nowhere
  | before
  | between
  | behind
  | around
deriving Repr, DecidableEq

/-- The gap that a word asks for. -/
def GroupGap.read? (text : String) : Option GroupGap :=
  [("none", nowhere), ("prepend", before), ("separate", between), ("append", behind),
    ("both", around)].lookup text

/-- Groups with the gaps beside them. -/
def withGaps (gap : GroupGap) (mark : UInt8) (groups : List (List UInt8)) : List UInt8 :=
  let empty : List UInt8 := [mark]
  match gap with
  | .nowhere => groups.flatten
  | .before => groups.flatMap (empty ++ ·)
  | .between => empty.intercalate groups
  | .behind => groups.flatMap (· ++ empty)
  | .around => if groups.isEmpty then [] else empty ++ groups.flatMap (· ++ empty)

/-- How lines are compared, as options ask for it. -/
structure LineKey where
  fields : Nat
  bytes : Nat
  size : Option Nat
  isFolded : Bool

/-- The part of a line that is compared. -/
def LineKey.part (k : LineKey) (line : List UInt8) : List UInt8 :=
  let part := (withoutFields k.fields line).drop k.bytes
  let part := k.size.elim part part.take
  if k.isFolded then part.map capitalByte else part

/-- The key that options ask for, or what is wrong with them. -/
def LineKey.ofOptions (o : Options) : Except String LineKey := do
  let number := fun (letter : Char) (what : String) =>
    match o.value? letter with
    | none => Except.ok none
    | some text =>
      match readCount [] text with
      | .ok n => .ok (some n)
      | .error _ => .error (text ++ ": invalid number of " ++ what)
  let short := (o.given.filter fun (letter, _) => letter.isDigit).map (·.1)
  let fields ← number 'f' "fields to skip"
  let bytes ← number 's' "bytes to skip"
  let size ← number 'w' "bytes to compare"
  return { fields := (fields <|> if short.isEmpty then none else some (asciiValue short)).getD 0
           bytes := bytes.getD 0, size, isFolded := o.has 'i' }

/-- The options of `uniq`. -/
def uniqForm : OptionForm :=
  { tool := "uniq", plain := "cdDiuz0123456789γ".toList, valued := ['f', 's', 'w']
    long := [("count", 'c'), ("repeated", 'd'), ("all-repeated", 'D'), ("group", 'γ'),
      ("ignore-case", 'i'), ("unique", 'u'), ("skip-fields", 'f'), ("skip-chars", 's'),
      ("check-chars", 'w'), ("zero-terminated", 'z')]
    free := ['D', 'γ'] }

/-- What is shown of lines of which neighbours may be the same. -/
def uniqShown (o : Options) (key : LineKey) (bytes : List UInt8) : List UInt8 :=
  let mark := o.recordEnd
  let groups := neighbourGroups (fun a b => key.part a == key.part b) (recordsOf mark bytes)
  let whole := fun (group : List (List UInt8)) => group.flatMap (· ++ [mark])
  let gap := fun (letter : Char) (usual : GroupGap) =>
    ((o.value? letter).bind GroupGap.read?).getD usual
  if o.has 'γ' then withGaps (gap 'γ' .between) mark (groups.map whole)
  else if o.has 'D' then
    withGaps (gap 'D' .nowhere) mark ((groups.filter fun group => 1 < group.length).map whole)
  else
    let kept := groups.filter fun group =>
      !(o.has 'd' && group.length == 1) && !(o.has 'u' && group.length != 1)
    kept.flatMap fun group =>
      (if o.has 'c' then bytesOf (aligned 7 group.length ++ " ") else []) ++
        group.headD [] ++ [mark]

/-- Prints lines that are not the same as the one before, to a file if a second one is named. -/
def uniq : Tool :=
  withOptions uniqForm fun o m =>
  let has := fun (letters : String) => letters.toList.any o.has
  match LineKey.ofOptions o with
  | .error what => (1, m.complain ("uniq: " ++ what))
  | .ok key =>
    if o.has 'γ' && has "cdDu" then
      refuseWith "uniq" "--group is mutually exclusive with -c/-d/-D/-u" m
    else if o.has 'D' && o.has 'c' then
      refuseWith "uniq" "printing all duplicated lines and repeat counts is meaningless" m
    else
      match o.operands with
      | _ :: _ :: extra :: _ => refuseWith "uniq" ("extra operand " ++ quoted extra) m
      | [source, target] =>
        match bytesNamed m source with
        | .error why => (1, complainOf "uniq" source why m)
        | .ok bytes =>
          let shown := uniqShown o key bytes
          let m := afterReading m source
          if target == "-" then (0, m.print shown)
          else
            match canonical? m.disk m.directory target, absence m target with
            | some location, _ =>
              match m.disk.at? location, m.disk.at? location.dropLast with
              | some (.directory _), _ => (1, complainOf "uniq" target .isDirectory m)
              | _, some (.directory _) => (0, m.place location (.file shown))
              | _, _ => (1, complainOf "uniq" target (absence m target) m)
            | none, why => (1, complainOf "uniq" target why m)
      | names => overNamed names (complainOf "uniq") (fun _ bytes => uniqShown o key bytes) m

/-! ## Counts -/

/-- Whether a character divides words. -/
def isWordGap (c : Char) : Bool :=
  Text.isBlank c && c.toNat != 28 && c.toNat != 29 && c.toNat != 30 && c.toNat != 31 && c.toNat != 133

/-- How many words a text holds; what does not show is no word of its own and divides none. -/
def wordCount (chars : List Char) : Nat :=
  (chars.foldl (fun (n, isInside) c =>
    if isWordGap c then (n, false)
    else if isInside || !isShown c then (n, isInside)
    else (n + 1, true)) (0, false)).1

/-- The column behind a character. -/
def columnBehind (column : Nat) (c : Char) : Nat :=
  if c == '\t' then column + 8 - column % 8
  else if c == '\r' || c == '\x0c' then 0
  else if isShown c then column + 1
  else column

/-- The greatest width of a line. -/
def greatestWidth (chars : List Char) : Nat :=
  (chars.foldl (fun (greatest, column) c =>
    let next := if c == '\n' then 0 else columnBehind column c
    (Nat.max greatest next, next)) (0, 0)).1

/-- The counts that options ask for: lines, words, characters, bytes and the greatest width of a line;
lines, words and bytes if none is asked for. -/
def countsOf (o : Options) (bytes : List UInt8) : List Nat :=
  let usual := "lwc".toList
  let wanted := fun letter =>
    if o.given.isEmpty then usual.contains letter else o.has letter
  let chars := if ['w', 'm', 'L'].any wanted then decodeUtf8 bytes else []
  let count := fun letter (n : Unit → Nat) => if wanted letter then [n ()] else []
  count 'l' (fun _ => bytes.count 10) ++ count 'w' (fun _ => wordCount chars) ++
    count 'm' (fun _ => chars.length) ++ count 'c' (fun _ => bytes.length) ++
    count 'L' (fun _ => greatestWidth chars)

/-- Prints counts.  Several numbers on a line stand below each other; their width is that of the
size of the files that are counted, and a width of its own if that is not known ahead. -/
def wc : Tool :=
  withOptions
    { tool := "wc", plain := "clLmw".toList
      long := [("bytes", 'c'), ("chars", 'm'), ("lines", 'l'), ("words", 'w'),
        ("max-line-length", 'L')] } fun o m =>
  let names := o.operands
  let things := if names.isEmpty then ["-"] else names
  let contents := things.filterMap fun name => (bytesNamed m name).toOption
  let isPlainInput := match (m.channel? 0).map (·.backing) with
    | some (.file _) => true
    | _ => false
  let least := if things.any fun name =>
      (name == "-" && !isPlainInput) || (m.reach? name).any (·.isDirectory) then 7 else 1
  let size := (contents.map List.length).foldl (· + ·) 0
  let isSingle := things.length == 1 && (countsOf o []).length == 1
  let width := if isSingle then 1 else max least (toString size).length
  let line := fun (counts : List Nat) (name : String) =>
    bytesOf (" ".intercalate (counts.map (aligned width)) ++
      (if name.isEmpty then "" else " " ++ citedIfLineEnd name) ++ "\n")
  let (status, m) := things.foldl (fun ((status : Nat), (m : Machine)) name =>
    match bytesNamed m name with
    | .ok bytes =>
      (status, (afterReading m name).print
        (line (countsOf o bytes) (if names.isEmpty then "" else name)))
    | .error why =>
      let m := complainOf "wc" name why m
      (1, if why = .isDirectory then m.print (line (countsOf o []) name) else m)) (0, m)
  if things.length < 2 then (status, m)
  else
    let sums := (contents.map (countsOf o)).foldl (fun sums counts =>
      List.zipWith (· + ·) sums counts) (List.replicate (countsOf o []).length 0)
    let sums := if o.has 'L' then
        (sums.dropLast ++ [((contents.map (countsOf o)).filterMap List.getLast?).foldl Nat.max 0])
      else sums
    (status, m.print (line sums "total"))
where
  /-- A name as it is, unless it has a line end. -/
  citedIfLineEnd (name : String) : String :=
    if name.toList.contains '\n' then cited name else name

end ProjectCheck.Shell
