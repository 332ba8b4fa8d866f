import ProjectCheck.Number.Reading
import ProjectCheck.Shell.Options
import ProjectCheck.Shell.Quotation
import ProjectCheck.Text.Cut

/-!
# What tools read

Tools read what paths name, the input where they name none, and take it as bytes, as lines or as records
with an ending of their own.  A tool that cannot read one of its arguments says so, goes on with the others
and has a status that is not zero.
-/

namespace ProjectCheck.Shell

open ProjectCheck.Disk ProjectCheck.Number ProjectCheck.Text

/-- Uses arguments one after the other; the last status that is not zero counts. -/
def forEach (use : String → Machine → Nat × Machine) : Tool := fun args m =>
  args.foldl (fun (status, m) arg =>
    let (new, m) := use arg m
    (if new = 0 then status else new, m)) (0, m)

/-! ## Contents -/

/-- The path that swallows all that is printed to it. -/
def nullDevice : String :=
  "/dev/null"

/-- The bytes that a path names, those of the input for a dash; or what stands against reading them. -/
def bytesNamed (m : Machine) (path : String) : Except Obstruction (List UInt8) :=
  if path == "-" || path == "/dev/stdin" then m.unread 0
  else if path == nullDevice then .ok []
  else
    match m.reach path with
    | .ok (.file content) => .ok content
    | .ok _ => .error .isDirectory
    | .error why => .error why

/-- A machine after what a path names has been read. -/
def afterReading (m : Machine) (path : String) : Machine :=
  if path == "-" then m.withoutInput else m

/-- The bytes of a text. -/
def bytesOf (s : String) : List UInt8 :=
  s.toUTF8.toList

/-- Whether a byte is a blank. -/
def isBlankByte (b : UInt8) : Bool :=
  b == 32 || b == 9

/-- The records of bytes, each with the byte that ends it. -/
def linesEndedBy (mark : UInt8) (bytes : List UInt8) : List (List UInt8) :=
  let (line, lines) := bytes.foldr (fun b (acc : List UInt8 × List (List UInt8)) =>
    if b == mark then ([b], if acc.1.isEmpty then acc.2 else acc.1 :: acc.2)
    else (b :: acc.1, acc.2)) ([], [])
  if line.isEmpty then lines else line :: lines

/-- The lines of bytes, each with its line end. -/
def byteLines (bytes : List UInt8) : List (List UInt8) :=
  linesEndedBy 10 bytes

/-- A record with the byte that ends it, if it has none. -/
def endedBy (mark : UInt8) (line : List UInt8) : List UInt8 :=
  if line.getLast? == some mark then line else line ++ [mark]

/-- A record without the byte that ends it. -/
def withoutEnd (mark : UInt8) (line : List UInt8) : List UInt8 :=
  if line.getLast? == some mark then line.dropLast else line

/-- A line with a line end, if it has none. -/
def ended (line : List UInt8) : List UInt8 :=
  endedBy 10 line

/-- A line without its line end. -/
def endless (line : List UInt8) : List UInt8 :=
  withoutEnd 10 line

/-- The records of bytes without the bytes that end them. -/
def recordsOf (mark : UInt8) (bytes : List UInt8) : List (List UInt8) :=
  (linesEndedBy mark bytes).map (withoutEnd mark)

/-- Bytes in pieces of a size. -/
def chunks (size : Nat) (bytes : List UInt8) : List (List UInt8) :=
  if _h : size = 0 ∨ bytes.length ≤ size then [bytes]
  else bytes.take size :: chunks size (bytes.drop size)
termination_by bytes.length
decreasing_by
  simp
  omega

/-- The byte that ends records: one that is nothing if an option asks for it. -/
def Options.recordEnd (o : Options) : UInt8 :=
  if o.has 'z' then 0 else 10

/-! ## Complaints -/

/-- What a tool says of a file that it cannot read. -/
def complainOf (tool name : String) (why : Obstruction) (m : Machine) : Machine :=
  m.complain (tool ++ ": " ++ citedIfOdd name ++ ": " ++ why.message)

/-- What a tool that shows names as they are says of a file that it cannot read. -/
def complainPlainly (tool name : String) (why : Obstruction) (m : Machine) : Machine :=
  m.complain (tool ++ ": " ++ name ++ ": " ++ why.message)

/-- What is said of arguments that cannot be used, with the status of the tool. -/
def refuseUse (status : Nat) (tool what : String) (m : Machine) : Nat × Machine :=
  (status, m.complain (tool ++ ": " ++ what ++ "\nTry '" ++ tool ++ " --help' for more information."))

/-- What is said of arguments that cannot be used. -/
def refuseWith (tool what : String) (m : Machine) : Nat × Machine :=
  refuseUse 1 tool what m

/-- What a tool says when it has nothing to work on. -/
def complainOfOperands (tool what : String) (m : Machine) : Nat × Machine :=
  refuseWith tool ("missing " ++ what) m

/-- Prints what is made of each of the things that are named, or of the input; things that cannot be
read are complained of. -/
def overNamed (names : List String) (complain : String → Obstruction → Machine → Machine)
    (use : String → List UInt8 → List UInt8) (m : Machine) : Nat × Machine :=
  forEach (fun name m =>
    match bytesNamed m name with
    | .ok bytes => (0, (afterReading m name).print (use name bytes))
    | .error why => (1, complain name why m)) (if names.isEmpty then ["-"] else names) m

/-- Prints what is made of the things that are named, or of the input, where something is kept from one to
the next. -/
def overNamedWith {σ : Type} (names : List String) (complain : String → Obstruction → Machine → Machine)
    (use : σ → String → List UInt8 → List UInt8 × σ) (kept : σ) (m : Machine) : Nat × σ × Machine :=
  (if names.isEmpty then ["-"] else names).foldl (fun (status, kept, m) name =>
    match bytesNamed m name with
    | .ok bytes =>
      let (shown, kept) := use kept name bytes
      (status, kept, (afterReading m name).print shown)
    | .error why => (1, kept, complain name why m)) (0, kept, m)

/-- All bytes that are named, or those of the input, one after the other. -/
def gatherNamed (names : List String) (complain : String → Obstruction → Machine → Machine)
    (m : Machine) : List UInt8 × Nat × Machine :=
  (if names.isEmpty then ["-"] else names).foldl (fun (bytes, status, m) name =>
    match bytesNamed m name with
    | .ok more => (bytes ++ more, status, afterReading m name)
    | .error why => (bytes, 1, complain name why m)) ([], 0, m)

/-! ## Counts -/

/-- Why a text is no count. -/
inductive CountFault where
  | noCount
  | tooGreat
deriving Repr, DecidableEq

/-- What is said of a count that is none. -/
def CountFault.message (what text : String) : CountFault → String
  | noCount => what ++ ": " ++ quoted text
  | tooGreat => what ++ ": " ++ quoted text ++ ": Value too large for defined data type"

/-- The letters for units, each a thousand times the one before it. -/
def unitLetters : List (Char × Nat) :=
  [('k', 1), ('K', 1), ('m', 2), ('M', 2), ('g', 3), ('G', 3), ('t', 4), ('T', 4), ('P', 5), ('E', 6),
    ('Z', 7), ('Y', 8)]

/-- The greatest count. -/
def countLimit : Nat :=
  18446744073709551615

/-- How many of something the unit behind a number stands for, if its letter is one of some. -/
def unitSize? (letters : List Char) : List Char → Option Nat
  | [] => some 1
  | letter :: rest =>
    if !letters.contains letter then none
    else if letter == 'b' && rest.isEmpty then some 512
    else if letter == 'c' && rest.isEmpty then some 1
    else if letter == 'w' && rest.isEmpty then some 2
    else
      (unitLetters.lookup letter).bind fun power =>
        match String.ofList rest with
        | "" => some (Nat.pow 1024 power)
        | "iB" => some (Nat.pow 1024 power)
        | "B" => some (Nat.pow 1000 power)
        | "D" => some (Nat.pow 1000 power)
        | _ => none

/-- The count that a text is, perhaps in a unit whose letter is one of some; a unit alone is one. -/
def readCount (letters : List Char) (text : String) : Except CountFault Nat :=
  let s := text.toList.dropWhile Char.isWhitespace
  let s := if s.head? == some '+' then s.drop 1 else s
  let (digits, rest) := takeAsciiDigits s
  if digits.isEmpty && rest.isEmpty then .error .noCount
  else
    match unitSize? letters rest with
    | none => .error .noCount
    | some size =>
      let n := (if digits.isEmpty then 1 else asciiValue digits) * size
      if countLimit < n then .error .tooGreat else .ok n

/-- The letters of all units that sizes may be given in. -/
def sizeLetters : List Char :=
  "bkKmMGTPEZY".toList

/-- A number of bytes, in a unit perhaps. -/
def countOf? (text : String) : Option Nat :=
  (readCount sizeLetters text).toOption

/-! ## Columns of figures -/

/-- A text with blanks in front of it, up to a width. -/
def alignedText (width : Nat) (s : String) : String :=
  String.ofList (List.replicate (width - s.length) ' ') ++ s

/-- A number with blanks in front of it, up to a width. -/
def aligned (width n : Nat) : String :=
  alignedText width (toString n)

/-! ## Places -/

/-- The location of what a path names, a link at its end not being followed. -/
def entryLocation? (m : Machine) (path : String) : Option Location :=
  let names := (Location.namesOf path).filter fun name => !isHere name
  match names.getLast? with
  | none => canonical? m.disk m.directory path
  | some name =>
    if name == ".." then canonical? m.disk m.directory path
    else
      (walk? m.disk m.disk.linkCount (Location.start m.directory path) names.dropLast).map
        (· ++ [name])

/-- What stands at the end of a path, a link there not being followed. -/
def standing? (m : Machine) (path : String) : Option Node :=
  if path.isEmpty then none
  else if path.toList.getLast? == some '/' then m.reach? path
  else (entryLocation? m path).bind m.disk.at?

/-- Why nothing stands at the end of a path. -/
def absence (m : Machine) (path : String) : Obstruction :=
  match m.reach path with
  | .error why => why
  | .ok _ => .missing

/-- A text with others in the place of a mark. -/
def replacedIn (mark value text : String) : String :=
  value.intercalate ((splitOn mark.toList text.toList).map String.ofList)

/-- Texts as lines. -/
def lined (names : List String) : String :=
  String.join (names.map (· ++ "\n"))

end ProjectCheck.Shell
