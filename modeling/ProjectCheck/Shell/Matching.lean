import ProjectCheck.Shell.Expression
import ProjectCheck.Shell.Glob
import ProjectCheck.Shell.Reading

/-!
# Matching lines

The tool that prints the lines that an expression fits, counts them, or only says whether there are
any.  Of a thing that is no text no line is printed, but it is said that there is one.
-/

namespace ProjectCheck.Shell

open ProjectCheck.Disk ProjectCheck.Text

/-- What is looked for, and what is shown of it. -/
structure LineSearch where
  options : Options
  expression : Expression
  /-- Whether lines have the names of their things in front. -/
  isTitled : Bool := false
  /-- How many lines are shown around those that are found. -/
  before : Nat := 0
  behind : Nat := 0
  /-- How many lines are looked for at most. -/
  most : Option Nat := none
  /-- What stands between lines that do not follow each other. -/
  gap : Option String := some "--"
  isPainted : Bool := false
  /-- What ends a line. -/
  mark : UInt8 := 10

namespace LineSearch

/-- A line without its end. -/
def content (s : LineSearch) (line : List UInt8) : List UInt8 :=
  if line.getLast? == some s.mark then line.dropLast else line

/-- A line as a text to be searched. -/
def subject (s : LineSearch) (line : List UInt8) : Expression.Subject :=
  { chars := (decodeUtf8 (s.content line)).toArray
    ignoresCase := s.options.has 'i' || s.options.has 'y'
    isFirstChoice := s.options.has 'P' }

/-- Whether a line is one of those that are looked for. -/
def selects (s : LineSearch) (line : List UInt8) : Bool :=
  (s.expression.find? (s.subject line) 0).isSome != s.options.has 'v'

/-- The numbers of the lines that are selected, counted from zero and no more than are asked for. -/
def selected (s : LineSearch) (lines : List (List UInt8)) : List Nat :=
  let found := (lines.zipIdx.filter fun (line, _) => s.selects line).map (·.2)
  match s.most with
  | some n => found.take n
  | none => found

/-- A text in a colour, if colours are shown. -/
def painted (s : LineSearch) (colour text : String) : String :=
  if s.isPainted then "\x1b[" ++ colour ++ "m\x1b[K" ++ text ++ "\x1b[m\x1b[K" else text

/-- What stands in front of a line: the name of its thing, its number and its place, with a sign behind
each. -/
def title (s : LineSearch) (name : String) (n place : Nat) (sign : String) : String :=
  let sign := s.painted "36" sign
  let parts := (if s.options.has 'n' then [s.painted "32" (toString (n + 1)) ++ sign] else []) ++
    (if s.options.has 'b' then [s.painted "32" (toString place) ++ sign] else [])
  let name := if !s.isTitled then ""
    else s.painted "35" name ++ if s.options.has 'Z' then "\x00" else sign
  let all := name ++ String.join parts
  if s.options.has 'T' && !all.isEmpty then all ++ "\t" else all

/-- The parts of a text that are looked for. -/
def partsIn (s : LineSearch) (subject : Expression.Subject) : List Expression.Found :=
  (s.expression.findAll subject).filter fun f => f.first != f.last

/-- The parts of a line that are looked for, each as a line of its own. -/
def partsOf (s : LineSearch) (name : String) (n place : Nat) (line : List UInt8) : List UInt8 :=
  let subject := s.subject line
  let textOf := fun (a b : Nat) => String.ofList (subject.chars.extract a b).toList
  (s.partsIn subject).flatMap fun f =>
    bytesOf (s.title name n (place + (textOf 0 f.first).utf8ByteSize) ":" ++
      s.painted "01;31" (textOf f.first f.last)) ++ [s.mark]

/-- A line in which what is looked for is painted. -/
def paintedLine (s : LineSearch) (line : List UInt8) : List UInt8 :=
  if !s.isPainted || s.options.has 'v' then s.content line
  else
    let subject := s.subject line
    let textOf := fun (a b : Nat) => String.ofList (subject.chars.extract a b).toList
    let (shown, last) := (s.partsIn subject).foldl (fun ((shown : String), (last : Nat)) f =>
      (shown ++ textOf last f.first ++ s.painted "01;31" (textOf f.first f.last), f.last)) ("", 0)
    bytesOf (shown ++ textOf last subject.chars.size)

/-- Lines with their numbers and places. -/
def placed (lines : List (List UInt8)) : List (List UInt8 × Nat × Nat) :=
  (lines.foldl (fun ((all : List (List UInt8 × Nat × Nat)), (n : Nat), (place : Nat)) line =>
    ((line, n, place) :: all, n + 1, place + line.length)) ([], 0, 0)).1.reverse

/-- Whether a line holds bytes that are no text. -/
def isForeign (s : LineSearch) (line : List UInt8) : Bool :=
  !s.options.has 'a' && !s.options.has 'o' && (exactTextOfBytes? (s.content line)).isNone

/-- What is printed of the lines that are found, with those around them, and whether some of these are no
text; lines that do not follow each other are parted. -/
def printed (s : LineSearch) (name : String) (lines : List (List UInt8)) (found : List Nat) :
    List UInt8 × Bool :=
  let isNear := fun i => found.any fun n => n ≤ i + s.before && i ≤ n + s.behind
  let near := (placed lines).filter fun (_, i, _) =>
    if s.options.has 'o' then found.contains i else isNear i
  let shown := near.filter fun (line, _, _) => !s.isForeign line
  let isParted := 0 < s.before + s.behind && !s.options.has 'o'
  let (text, _) := shown.foldl
    (fun ((text : List (List UInt8)), (last : Option Nat)) (line, i, place) =>
      let gap := match s.gap with
        | some gap => if isParted && last.any fun l => l + 1 < i
            then bytesOf (s.painted "36" gap ++ "\n") else []
        | none => []
      let one := if s.options.has 'o' then
          if s.options.has 'v' then [] else s.partsOf name i place line
        else
          let isFound := found.contains i
          bytesOf (s.title name i place (if isFound then ":" else "-")) ++
            (if isFound then s.paintedLine line else s.content line) ++ [s.mark]
      ((gap ++ one) :: text, some i)) ([], none)
  (text.reverse.flatten, shown.length < near.length)

/-- What is printed of a thing, whether it has a line that is looked for, and whether it is said that
it is no text. -/
def shown (s : LineSearch) (name : String) (bytes : List UInt8) : List UInt8 × Bool × Bool :=
  let has := s.options.has
  let isBinary := s.mark != 0 && bytes.contains 0 && !has 'a'
  if has 'I' && isBinary then ([], false, false)
  else
    let lines := linesEndedBy s.mark bytes
    let found := s.selected lines
    let isFound := !found.isEmpty
    let named := bytesOf (s.painted "35" name ++ if has 'Z' then "\x00" else "\n")
    if has 'q' then ([], isFound, false)
    else if has 'l' then (if isFound then named else [], isFound, false)
    else if has 'L' then (if isFound then [] else named, isFound, false)
    else if has 'c' then
      let title := if !s.isTitled then ""
        else s.painted "35" name ++ if has 'Z' then "\x00" else s.painted "36" ":"
      (bytesOf (title ++ toString found.length ++ "\n"), isFound, false)
    else if isFound && isBinary then ([], isFound, true)
    else
      let (text, isBroken) := s.printed name lines found
      (text, isFound, isBroken && !has 'I')

end LineSearch

/-- The long names of the options of the tool. -/
def matchingNames : List (String × Char) :=
  [("basic-regexp", 'G'), ("extended-regexp", 'E'), ("fixed-regexp", 'F'), ("fixed-strings", 'F'),
   ("perl-regexp", 'P'), ("after-context", 'A'), ("before-context", 'B'), ("binary-files", '='),
   ("binary", 'U'), ("byte-offset", 'b'), ("context", 'C'), ("color", '%'), ("colour", '%'),
   ("count", 'c'), ("devices", 'D'), ("directories", 'd'), ("exclude", '~'),
   ("exclude-from", '&'), ("exclude-dir", '/'), ("file", 'f'), ("files-with-matches", 'l'),
   ("files-without-match", 'L'), ("group-separator", '-'), ("ignore-case", 'i'),
   ("no-ignore-case", '!'), ("include", '+'), ("initial-tab", 'T'), ("line-buffered", 'u'),
   ("line-number", 'n'), ("line-regexp", 'x'), ("max-count", 'm'), ("no-filename", 'h'),
   ("no-group-separator", '|'), ("no-messages", 's'), ("null", 'Z'), ("null-data", 'z'),
   ("only-matching", 'o'), ("quiet", 'q'), ("recursive", 'r'), ("dereference-recursive", 'R'),
   ("regexp", 'e'), ("invert-match", 'v'), ("silent", 'q'), ("text", 'a'), ("word-regexp", 'w'),
   ("with-filename", 'H')]

/-- What is said of the use of the tool. -/
def matchingUsage : String :=
  "Usage: grep [OPTION]... PATTERNS [FILE]...\nTry 'grep --help' for more information."

/-- The options of the tool. -/
def matchingForm : OptionForm :=
  { tool := "grep", plain := "acEFGhHiILlnoPqRrsTUuvwxyzZbV0123456789!|%".toList
    valued := ['e', 'f', 'm', 'A', 'B', 'C', 'd', 'D', '+', '~', '&', '/', '-', '=']
    free := ['%'], long := matchingNames, faultStatus := 2, usage := matchingUsage }

/-- The expression for patterns of which any may fit. -/
def patternsExpression (o : Options) (patterns : List String) :
    Except ExpressionFault Expression := do
  let form : ExpressionForm :=
    if o.has 'P' then .lettered else if o.has 'E' then .extended else .basic
  let all ← patterns.mapM fun pattern =>
    if o.has 'F' then .ok (Expression.ofText pattern.toList)
    else Expression.read form pattern.toList
  let any := match all with
    | [] => .exactly '\n'
    | first :: others => others.foldl .either first
  return if o.has 'x' then .sequence .textStart (.sequence any .textEnd)
    else if o.has 'w' then .sequence .clearBefore (.sequence any .clearBehind)
    else any

/-- Whether a file is looked at when directories are gone through: its name may have to fit one of
some patterns, and none of others, as the names of directories on the way to it. -/
def isLookedAt (o : Options) (path : String) : Bool :=
  let fitsAny := fun (letter : Char) (name : List Char) => (o.values letter).any fun pattern =>
    (Pattern.ofText pattern.toList).fits name
  let name := Path.lastSegment path.toList
  ((o.values '+').isEmpty || fitsAny '+' name) && !fitsAny '~' name &&
    !(pieces '/' path.toList).dropLast.any (fitsAny '/')

/-- The files that a name stands for when directories are gone through. -/
def filesBelow (o : Options) (m : Machine) (name : String) : List String :=
  match m.reach? name with
  | some (.directory entries) => (filePathsAmong name entries).filter (isLookedAt o)
  | _ => [name]

/-- The patterns that are given, those in files among them, and the operands behind them. -/
def patternsGiven (o : Options) (m : Machine) :
    Except String (Option (List String) × List String) := do
  let fromFiles ← (o.values 'f').mapM fun name =>
    match bytesNamed m name with
    | .ok bytes => .ok ((byteLines bytes).map fun line => stringOfBytes (endless line))
    | .error why => .error (name ++ ": " ++ why.message)
  let lines := fun (pattern : String) => pattern.splitOn "\n"
  if o.has 'e' || o.has 'f' then
    return (some ((o.values 'e').flatMap lines ++ fromFiles.flatten), o.operands)
  else
    match o.operands with
    | pattern :: rest => return (some (lines pattern), rest)
    | [] => return (none, [])

/-- How many lines around those that are found an option asks for. -/
def contextOf (o : Options) (letter : Char) : Except String (Option Nat) :=
  match o.value? letter with
  | none => .ok none
  | some value =>
    match value.toNat? with
    | some n => .ok (some n)
    | none => .error (value ++ ": invalid context length argument")

/-- The search that options ask for. -/
def searchOf (o : Options) : Except String LineSearch := do
  let around ← contextOf o 'C'
  let before ← contextOf o 'B'
  let behind ← contextOf o 'A'
  let most ← match o.value? 'm' with
    | none => .ok none
    | some value =>
      match value.toInt? with
      | some n => .ok (if n < 0 then none else some n.toNat)
      | none => .error "invalid max count"
  let digits := (o.given.map (·.1)).filter Char.isDigit
  let around := around.getD (Expression.numberOf digits)
  return { options := o
           expression := .nothing
           before := before.getD around
           behind := behind.getD around
           most
           gap := if o.has '|' then none else some ((o.value? '-').getD "--")
           isPainted := ["always", "yes", "force"].contains ((o.value? '%').getD "")
           mark := if o.has 'z' then 0 else 10 }

/-- The options with what they mean together: how things that are no text are taken, and whether
directories are gone through. -/
def withMeanings (o : Options) : Options :=
  let add := fun (isAsked : Bool) (letter : Char) (o : Options) =>
    if isAsked then o.withOption letter "" else o
  add (o.value? '=' == some "text") 'a' <| add (o.value? '=' == some "without-match") 'I' <|
    add (o.value? 'd' == some "recurse") 'r' o

/-- Prints the lines that an expression fits. -/
def grep : Tool := withOptions matchingForm fun o m =>
  let o := withMeanings o
  let isDeep := o.has 'r' || o.has 'R'
  let fail := fun (what : String) => (2, m.complain ("grep: " ++ what))
  match searchOf o, patternsGiven o m with
  | .error what, _ => fail what
  | _, .error what => fail what
  | _, .ok (none, _) => (2, m.complain matchingUsage)
  | .ok search, .ok (some patterns, operands) =>
    match patternsExpression o patterns with
    | .error why => fail (if o.has 'P' then why.letteredMessage else why.message)
    | .ok expression =>
      let isTitled := o.has 'H' || (!o.has 'h' &&
        (operands.length > 1 || (isDeep && operands.all fun name =>
          (m.reach? name).any Node.isDirectory)))
      let search := { search with expression, isTitled }
      let m := if o.has 'E' && !o.has 'F' && !o.has 'P' then
          (patterns.flatMap fun line =>
            Expression.looseRepeats .extended (line.length + 1) true line.toList).foldl
              (fun m sign => m.complain ("grep: warning: " ++ sign ++ " at start of expression")) m
        else m
      let things := match operands, isDeep with
        | [], true => ((filesBelow o m ".").map fun (p : String) => String.ofList (p.toList.drop 2))
        | [], false => ["-"]
        | names, true => names.flatMap (filesBelow o m)
        | names, false => names
      let isSkipped := fun (why : Disk.Obstruction) =>
        why = .isDirectory && o.value? 'd' == some "skip"
      let (isFound, isWrong, m) := if search.most == some 0 then (false, false, m) else
        things.foldl (fun (isFound, isWrong, m) name =>
          if isFound && o.has 'q' then (isFound, isWrong, m)
          else
            match bytesNamed m name with
            | .ok bytes =>
              let title := if name == "-" then "(standard input)" else name
              let (text, hasAny, isForeign) := search.shown title bytes
              let m := (afterReading m name).print text
              (isFound || hasAny, isWrong,
                if isForeign then m.complain ("grep: " ++ title ++ ": binary file matches") else m)
            | .error why =>
              if isSkipped why then (isFound, isWrong, m)
              else (isFound, true, if o.has 's' then m else complainPlainly "grep" name why m))
          (false, false, m)
      (if isWrong && !(isFound && o.has 'q') then 2 else if isFound then 0 else 1, m)

end ProjectCheck.Shell
