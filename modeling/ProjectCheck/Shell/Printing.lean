import ProjectCheck.Number.Notation
import ProjectCheck.Number.Reading
import ProjectCheck.Shell.Calculation
import ProjectCheck.Shell.Exchange

/-!
# Tools that print

`echo` prints its arguments, and `printf` prints a format with its arguments put in, as often as it
takes to use them up.  Both know escapes, that is, characters and bytes written behind a backslash.
-/

namespace ProjectCheck.Shell

open ProjectCheck.Number

/-! ## Escapes -/

/-- A byte that a letter stands for behind a backslash. -/
def letterByte? : Char → Option UInt8
  | 'a' => some 7
  | 'b' => some 8
  | 'f' => some 12
  | 'n' => some 10
  | 'r' => some 13
  | 't' => some 9
  | 'v' => some 11
  | '\\' => some 92
  | _ => none

/-- Whether a character is a digit of base eight. -/
def isOctal (c : Char) : Bool :=
  '0' ≤ c && c ≤ '7'

/-- The byte that digits of base eight give. -/
def octalByte (digits : List Char) : UInt8 :=
  UInt8.ofNat (digits.foldl (fun n c => 8 * n + (c.toNat - 48)) 0)

/-- The bytes that a backslash in front of a text means, and how many characters it takes: up to three
digits of base eight, or a letter.  A backslash in front of anything else stands for itself. -/
def escapeAt (rest : List Char) : List UInt8 × Nat :=
  let digits := (rest.takeWhile isOctal).take 3
  if !digits.isEmpty then ([octalByte digits], digits.length)
  else
    match rest.head?.bind letterByte? with
    | some b => ([b], 1)
    | none => ([92], 0)

/-- The bytes of a text whose escapes get their meanings, and whether one of them ends all printing.
A zero in front of digits of base eight does not count as one of them. -/
def escapedBytes (s : List Char) : List UInt8 × Bool :=
  match s with
  | [] => ([], false)
  | '\\' :: 'c' :: _ => ([], true)
  | '\\' :: rest =>
    let zeros := if rest.head? == some '0' && (rest.drop 1).head?.any isOctal then 1 else 0
    let (own, n) := escapeAt (rest.drop zeros)
    let (others, isOver) := escapedBytes (rest.drop (zeros + n))
    (own ++ others, isOver)
  | c :: rest =>
    let (others, isOver) := escapedBytes rest
    (charBytes c ++ others, isOver)
termination_by s.length

/-! ## Arguments with blanks between them -/

/-- The options that the larger shell takes in front of what is printed: whether the line end is left
out, and whether escapes are known. -/
def echoOptions : (isSilent knowsEscapes : Bool) → List String → Bool × Bool × List String
  | isSilent, knows, arg :: rest =>
    match arg.toList with
    | '-' :: letters =>
      if letters.isEmpty || !letters.all "neE".toList.contains then (isSilent, knows, arg :: rest)
      else
        echoOptions (isSilent || letters.contains 'n')
          (match letters.reverse.find? (· != 'n') with
            | some 'e' => true
            | some _ => false
            | none => knows) rest
    | _ => (isSilent, knows, arg :: rest)
  | isSilent, knows, [] => (isSilent, knows, [])

/-- Prints arguments with blanks between them. -/
def echo : Tool := fun args m =>
  let (isSilent, knowsEscapes, args) := match m.dialect, args with
    | .plain, "-n" :: rest => (true, true, rest)
    | .plain, args => (false, true, args)
    | .large, args => echoOptions false false args
  let line := " ".intercalate args
  let (bytes, isOver) := if knowsEscapes then escapedBytes line.toList else (bytesOf line, false)
  (0, m.print (bytes ++ if isSilent || isOver then [] else [10]))

/-! ## Formats -/

/-- What stands between a percent sign and the letter behind it. -/
structure FormatForm where
  signs : List Char := []
  width : Nat := 0
  precision : Option Nat := none
deriving Repr, DecidableEq

namespace FormatForm

/-- Bytes brought to the width that is asked for. -/
def padded (f : FormatForm) (bytes : List UInt8) : List UInt8 :=
  let gap := List.replicate (f.width - bytes.length) (32 : UInt8)
  if f.signs.contains '-' then bytes ++ gap else gap ++ bytes

/-- A number with its sign, brought to the width that is asked for. -/
def paddedNumber (f : FormatForm) (isNegative : Bool) (lead body : String) (mayFill : Bool) :
    List UInt8 :=
  let sign := if isNegative then "-" else if f.signs.contains '+' then "+"
    else if f.signs.contains ' ' then " " else ""
  let front := sign ++ lead
  if mayFill && f.signs.contains '0' && !f.signs.contains '-' then
    bytesOf (front ++ String.ofList
      (List.replicate (f.width - front.length - body.length) '0') ++ body)
  else f.padded (bytesOf (front ++ body))

/-- The digits of a number, as many as are asked for at least. -/
def digits (f : FormatForm) (base : Nat) (n : Nat) : String :=
  let shown := if n = 0 && f.precision == some 0 then [] else Nat.toDigits base n
  String.ofList (List.replicate ((f.precision.getD 1) - shown.length) '0' ++ shown)

/-- An integer in the form of a letter. -/
def integer (f : FormatForm) (letter : Char) (n : Int) : List UInt8 :=
  let fill := f.precision.isNone
  let plain : FormatForm := { f with signs := f.signs.filter fun c => c != '+' && c != ' ' }
  let isMarked := f.signs.contains '#'
  match letter with
  | 'o' =>
    let body := f.digits 8 (Calculation.bitsOf n)
    plain.paddedNumber false (if isMarked && !body.startsWith "0" then "0" else "") body fill
  | 'x' =>
    plain.paddedNumber false (if isMarked && n != 0 then "0x" else "")
      (f.digits 16 (Calculation.bitsOf n)) fill
  | 'X' =>
    plain.paddedNumber false (if isMarked && n != 0 then "0X" else "")
      (f.digits 16 (Calculation.bitsOf n)).toUpper fill
  | 'u' => plain.paddedNumber false "" (f.digits 10 (Calculation.bitsOf n)) fill
  | _ => f.paddedNumber (n < 0) "" (f.digits 10 n.natAbs) fill

/-- A floating-point number in the form of a letter. -/
def real (f : FormatForm) (letter : Char) (x : Float) : List UInt8 :=
  let isCapital := letter.isUpper
  let mark := if isCapital then 'E' else 'e'
  let places := f.precision.getD 6
  let negative := Number.isNegative x
  if x.isNaN || x.isInf then
    let word := if x.isNaN then "nan" else "inf"
    f.paddedNumber negative "" (if isCapital then word.toUpper else word) false
  else
    let body := match letter.toLower with
      | 'f' => fixedSize places x
      | 'e' => scientificSize mark places x
      | _ => generalSize mark places (f.signs.contains '#') x
    f.paddedNumber negative "" body true

end FormatForm

/-- A number read from the front of an argument, and how much of the argument is left. -/
def integerArgument (isSigned : Bool) (arg : String) : Int × List Char :=
  match arg.toList with
  | '"' :: rest => (((rest.head?.map fun c => ((charBytes c).head?.getD 0).toNat).getD 0 : Nat), [])
  | '\'' :: rest => (((rest.head?.map fun c => ((charBytes c).head?.getD 0).toNat).getD 0 : Nat), [])
  | cs =>
    let s := cs.dropWhile fun c => c == ' ' || ('\t' ≤ c && c ≤ '\r')
    let (isNegative, body) := takeSign s
    let (n, taken) := Calculation.takeNumber body
    if taken = 0 then (0, cs)
    else
      let value := if isNegative then -n else n
      (if isSigned then value else (Calculation.bitsOf value : Int), body.drop taken)

/-- The decimal at the front of an argument, and what is left of it. -/
def realArgument (arg : String) : Float × List Char :=
  let (isNegative, body) := takeSign (arg.toList.dropWhile (· == ' '))
  let lengths := (List.range (body.length + 1)).reverse
  match lengths.findSome? fun n => (readDecimal? (body.take n)).map fun x => (x, body.drop n) with
  | some (x, rest) => (if isNegative then -x else x, rest)
  | none => (0.0, arg.toList)

/-- The state of printing a format. -/
structure FormatRun where
  machine : Machine
  args : List String
  status : Nat := 0
  isOver : Bool := false

namespace FormatRun

/-- Prints bytes. -/
def print (r : FormatRun) (bytes : List UInt8) : FormatRun :=
  { r with machine := r.machine.print bytes }

/-- Says what is wrong with an argument, if part of it is left. -/
def checked (r : FormatRun) (arg : String) (left : List Char) : FormatRun :=
  if left.isEmpty then r
  else
    let what := if left.length == arg.length then "expected numeric value"
      else "not completely converted"
    { r with machine := r.machine.complainAsShell (arg ++ ": " ++ what), status := 1 }

/-- Takes the next argument, which may be missing. -/
def next (r : FormatRun) : Option String × FormatRun :=
  (r.args.head?, { r with args := r.args.drop 1 })

/-- Takes a number, which may stand in the format or be the next argument, and what is left of the
format. -/
def takeSize (r : FormatRun) (s : List Char) : Option Int × List Char × FormatRun :=
  match s with
  | '*' :: rest =>
    let (arg, r) := r.next
    let (n, left) := integerArgument true (arg.getD "0")
    (some n, rest, r.checked (arg.getD "") left)
  | _ =>
    let digits := s.takeWhile Char.isDigit
    (if digits.isEmpty then none else some (asciiValue digits : Int), s.drop digits.length, r)

/-- Prints the next argument in the form of a letter. -/
def convert (r : FormatRun) (f : FormatForm) (letter : Char) : FormatRun :=
  let (arg, r) := r.next
  let text := arg.getD ""
  let cut := fun (bytes : List UInt8) => match f.precision with
    | some n => bytes.take n
    | none => bytes
  match letter with
  | 's' => r.print (f.padded (cut (bytesOf text)))
  | 'b' =>
    let (bytes, isOver) := escapedBytes text.toList
    { r.print (f.padded (cut bytes)) with isOver }
  | 'c' => r.print (f.padded ((bytesOf text).take 1))
  | _ =>
    if "diouxX".toList.contains letter then
      let (n, left) := match arg with
        | none => (0, [])
        | some arg => integerArgument (letter == 'd' || letter == 'i') arg
      (r.checked text left).print (f.integer letter n)
    else
      let (x, left) := match arg with
        | none => (0.0, [])
        | some arg => if arg.isEmpty then (0.0, []) else realArgument arg
      (r.checked text left).print (f.real letter x)

/-- Prints a format once, with a bound on its length. -/
def once : Nat → List Char → FormatRun → FormatRun
  | 0, _, r => r
  | fuel + 1, s, r =>
    if r.isOver then r
    else
      match s with
      | [] => r
      | '\\' :: rest =>
        let (bytes, n) := escapeAt rest
        once fuel (rest.drop n) (r.print bytes)
      | '%' :: '%' :: rest => once fuel rest (r.print [37])
      | '%' :: rest =>
        let signs := rest.takeWhile "#-+ 0".toList.contains
        let (width, rest, r) := r.takeSize (rest.drop signs.length)
        let (precision, rest, r) := match rest with
          | '.' :: rest =>
            let (n, rest, r) := r.takeSize rest
            (some (n.getD 0), rest, r)
          | rest => (none, rest, r)
        let width := width.getD 0
        let form : FormatForm :=
          { signs := if width < 0 then '-' :: signs else signs
            width := width.natAbs
            precision := (precision.filter (0 ≤ ·)).map Int.toNat }
        match rest with
        | [] =>
          { r with
            machine := r.machine.complainAsShell "missing format character"
            status := 2, isOver := true }
        | letter :: rest =>
          if "diouxXcsbeEfFgG".toList.contains letter then once fuel rest (r.convert form letter)
          else
            { r with
              machine := r.machine.complainAsShell
                ("%" ++ String.singleton letter ++ ": invalid directive")
              status := 2, isOver := true }
      | c :: rest => once fuel rest (r.print (charBytes c))

/-- Prints a format as often as it takes to use up the arguments. -/
def all (format : List Char) : Nat → FormatRun → FormatRun
  | 0, r => r
  | fuel + 1, r =>
    let after := once (format.length + 1) format r
    if after.isOver || after.args.isEmpty || after.args.length == r.args.length then after
    else all format fuel after

end FormatRun

/-- Prints arguments in a format. -/
def printf : Tool := fun args m =>
  match if args.head? == some "--" then args.drop 1 else args with
  | [] => (2, m.complainAsShell "usage: printf format [arg ...]")
  | format :: args =>
    let r := FormatRun.all format.toList (args.length + 1) { machine := m, args }
    (r.status, r.machine)

end ProjectCheck.Shell
