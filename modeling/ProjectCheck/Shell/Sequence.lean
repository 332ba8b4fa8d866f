import ProjectCheck.Shell.Printing

/-!
# Rows of numbers

`seq` prints the numbers from one to another in steps of the same size.  The numbers are decimals and are
counted exactly, in units of a last digit.  Times to wait are read in the same forms.
-/

namespace ProjectCheck.Shell

open ProjectCheck.Number ProjectCheck.Text

/-- A number with digits behind the point: `size` counts units of the last of them. -/
structure PlacedNumber where
  size : Int
  places : Nat
  /-- How many digits it asks for behind the point. -/
  precision : Nat := places
  /-- How long it is written. -/
  width : Nat := 0
deriving Repr, DecidableEq

namespace PlacedNumber

/-- The whole number that digits to the base sixteen are. -/
def readHexadecimal? (digits : List Char) : Option Nat :=
  if digits.isEmpty then none
  else digits.foldlM (fun n c => (hexValue? c).map (16 * n + ·)) 0
where
  /-- The value of a digit to the base sixteen. -/
  hexValue? (c : Char) : Option Nat :=
    if isAsciiDigit c then some (c.toNat - 48)
    else if 'a' ≤ c && c ≤ 'f' then some (c.toNat - 87)
    else if 'A' ≤ c && c ≤ 'F' then some (c.toNat - 55)
    else none

/-- The number without a sign that a text is, in digits to the base ten and perhaps with an exponent. -/
def readPlain? (isNegative : Bool) (s : List Char) : Option PlacedNumber :=
  let (whole, behind) := takeAsciiDigits s
  let (hasPoint, fraction, behind) := match behind with
    | '.' :: rest => (true, takeAsciiDigits rest)
    | rest => (false, [], rest)
  let (exponent, rest) := takeExponent behind
  if !rest.isEmpty || (whole.isEmpty && fraction.isEmpty) then none
  else
    let shift := exponent.getD 0
    let lost := Nat.min fraction.length shift.toNat
    let places := fraction.length - lost + (-shift).toNat
    let zeros := shift.toNat - lost
    let size : Int := (asciiValue (whole ++ fraction) * Nat.pow 10 zeros : Nat)
    let pointWidth := if !hasPoint then 0 else if fraction.isEmpty then 0
      else fraction.length + if whole.isEmpty then 2 else 1
    let signWidth := if isNegative then 1 else 0
    let exponentWidth := shift.natAbs + if shift < 0 && (!hasPoint || fraction.isEmpty) then 1 else 0
    some { size := if isNegative then -size else size, places
           width := signWidth + whole.length + pointWidth + exponentWidth }

/-- The number that a text is. -/
def read? (text : String) : Option PlacedNumber :=
  let s := text.toList.dropWhile fun c => c.isWhitespace || c == '+'
  let isNegative := s.head? == some '-'
  let body := if isNegative then s.drop 1 else s
  match body with
  | '0' :: x :: digits =>
    if x == 'x' || x == 'X' then
      (readHexadecimal? digits).map fun n =>
        { size := if isNegative then -(n : Int) else n, places := 0 }
    else readPlain? isNegative body
  | _ => readPlain? isNegative body

/-- The size of a number in units of some place. -/
def sizeAt (places : Nat) (n : PlacedNumber) : Int :=
  n.size * (Nat.pow 10 (places - n.places) : Nat)

/-- A size in units of a place, with zeros in front up to a width. -/
def shown (width places : Nat) (size : Int) : String :=
  let digits := toString size.natAbs
  let zeros := fun (n : Nat) => String.ofList (List.replicate n '0')
  let digits := zeros (places + 1 - digits.length) ++ digits
  let whole := (digits.toList.take (digits.length - places))
  let fraction := (digits.toList.drop (digits.length - places))
  let body := String.ofList whole ++ (if places = 0 then "" else "." ++ String.ofList fraction)
  let sign := if size < 0 then "-" else ""
  sign ++ zeros (width - body.length - sign.length) ++ body

end PlacedNumber

/-! ## Formats -/

/-- The form in which numbers are printed, with the texts around them. -/
structure NumberFormat where
  lead : String
  form : FormatForm
  letter : Char
  ending : String

/-- Why a text is no format of one number. -/
inductive NumberFormatFault where
  | noDirective
  | endsInSign
  | unknown (letter : Char)
  | tooMany
deriving Repr, DecidableEq

/-- What is said of a text that is no format of one number. -/
def NumberFormatFault.message (text : String) : NumberFormatFault → String
  | noDirective => "format " ++ quoted text ++ " has no % directive"
  | endsInSign => "format " ++ quoted text ++ " ends in %"
  | unknown letter => "format " ++ quoted text ++ " has unknown %" ++ String.singleton letter ++ " directive"
  | tooMany => "format " ++ quoted text ++ " has too many % directives"

namespace NumberFormat

/-- The text up to a percent sign that stands for more than itself, and what stands behind it. -/
def upToDirective (text : List Char) : List Char → List Char × Option (List Char)
  | [] => (text.reverse, none)
  | '%' :: '%' :: rest => upToDirective ('%' :: text) rest
  | '%' :: rest => (text.reverse, some rest)
  | c :: rest => upToDirective (c :: text) rest

/-- The format that a text is. -/
def read (text : String) : Except NumberFormatFault NumberFormat :=
  match upToDirective [] text.toList with
  | (_, none) => .error .noDirective
  | (lead, some rest) =>
    let signs := rest.takeWhile "-+#0 '".toList.contains
    let (width, rest) := takeAsciiDigits (rest.drop signs.length)
    let (precision, rest) := match rest with
      | '.' :: rest =>
        let (digits, rest) := takeAsciiDigits rest
        (some (asciiValue digits), rest)
      | rest => (none, rest)
    let rest := if rest.head? == some 'L' then rest.drop 1 else rest
    match rest with
    | [] => .error .endsInSign
    | letter :: rest =>
      if !("efgaEFGA".toList.contains letter) then .error (.unknown letter)
      else
        match upToDirective [] rest with
        | (_, some _) => .error .tooMany
        | (ending, none) =>
          .ok { lead := String.ofList lead, letter, ending := String.ofList ending
                form := { signs, width := asciiValue width, precision } }

/-- A number in a format. -/
def shown (f : NumberFormat) (x : Float) : String :=
  f.lead ++ stringOfBytes (f.form.real f.letter x) ++ f.ending

end NumberFormat

/-! ## The tool -/

/-- How many numbers a row may have that is printed at once. -/
def rowLimit : Nat :=
  200000

/-- The sizes from one to another. -/
def sizesBetween (first step last : Int) : List Int :=
  if step = 0 then []
  else
    let count := ((last - first) * step.sign) / step.natAbs + 1
    (List.range (Nat.min count.toNat rowLimit)).map fun (n : Nat) => first + step * (n : Int)

/-- The options of `seq`. -/
def seqForm : OptionForm :=
  { tool := "seq", plain := ['w'], valued := ['s', 'f']
    long := [("equal-width", 'w'), ("format", 'f'), ("separator", 's')] }

/-- How wide the numbers from one to another are if all of them are equally wide. -/
def commonWidth (places : Nat) (first last : PlacedNumber) : Nat :=
  let firstWidth := first.width + places - first.precision +
    if first.precision = 0 && places ≠ 0 then 1 else 0
  let lastWidth := last.width + places - last.precision
  let lastWidth := if last.precision ≠ 0 && places = 0 then lastWidth - 1
    else if last.precision = 0 && places ≠ 0 then lastWidth + 1
    else lastWidth
  Nat.max firstWidth lastWidth

/-- Prints the numbers from one to another, in a form that options ask for. -/
def printRow (o : Options) (format : Option NumberFormat) (first step last : PlacedNumber) (m : Machine) :
    Nat × Machine :=
  let unit := Nat.max (Nat.max first.places step.places) last.places
  let scale : Int := (Nat.pow 10 unit : Nat)
  let places := Nat.max first.precision step.precision
  let sizes := sizesBetween (first.sizeAt unit) (step.sizeAt unit) (last.sizeAt unit)
  let width := if o.has 'w' then commonWidth places first last else 0
  let texts := sizes.map fun size =>
    match format with
    | some f => f.shown (Float.ofInt size / Float.ofInt scale)
    | none => PlacedNumber.shown width places (size / (Nat.pow 10 (unit - places) : Nat))
  if texts.isEmpty then (0, m)
  else (0, m.say (((o.value? 's').getD "\n").intercalate texts ++ "\n"))

/-- Prints the numbers from one to another, from one if none is given, perhaps in steps. -/
def seq : Tool := fun args m =>
  let isNumber := fun (arg : String) => match arg.toList with
    | '-' :: c :: _ => isAsciiDigit c || c == '.'
    | _ => false
  let (options, numbers) := splitFromOperands isNumber seqForm args
  withOptions seqForm (fun o m =>
    match (o.value? 'f').map fun text => (NumberFormat.read text).mapError (·.message text) with
    | some (.error what) => (1, m.complain ("seq: " ++ what))
    | format =>
      let format := format.bind (·.toOption)
      let one : PlacedNumber := { size := 1, places := 0, width := 1 }
      if numbers.isEmpty then refuseWith "seq" "missing operand" m
      else if 3 < numbers.length then
        refuseWith "seq" ("extra operand " ++ quoted ((numbers[3]?).getD "")) m
      else if format.isSome && o.has 'w' then
        refuseWith "seq" "format string may not be specified when printing equal width strings" m
      else
        match numbers.find? fun text => (PlacedNumber.read? text).isNone with
        | some text =>
          if (text.toList.map Char.toLower) == "nan".toList then
            refuseWith "seq" ("invalid " ++ quoted "not-a-number" ++ " argument: " ++ quoted text) m
          else refuseWith "seq" ("invalid floating point argument: " ++ quoted text) m
        | none =>
          match numbers.filterMap PlacedNumber.read? with
          | [first, step, last] =>
            if step.size = 0 then
              refuseWith "seq" ("invalid Zero increment value: " ++ quoted ((numbers[1]?).getD "")) m
            else printRow o format first step last m
          | [first, last] => printRow o format first one last m
          | [last] => printRow o format one one last m
          | _ => (0, m)) options m

/-! ## Times -/

/-- The seconds that a letter behind a number stands for. -/
def timeUnits : List (Char × Float) :=
  [('s', 1.0), ('m', 60.0), ('h', 3600.0), ('d', 86400.0)]

/-- The number that is zero or more which a text is; none if it is without end. -/
def readMeasure? (text : List Char) : Option (Option Float) :=
  let s := text.dropWhile Char.isWhitespace
  let s := if s.head? == some '+' then s.drop 1 else s
  let word := String.ofList (s.map Char.toLower)
  if word == "inf" || word == "infinity" then some none
  else
    match s with
    | '0' :: x :: digits =>
      if x == 'x' || x == 'X' then
        (PlacedNumber.readHexadecimal? digits).map fun n => some (Float.ofNat n)
      else (readUnsigned? s).map some
    | s => (readUnsigned? s).map some

/-- How many milliseconds a text asks to wait, perhaps without end; a letter behind the number says
what it counts. -/
def waitingTime? (text : String) : Option (Option Nat) :=
  let s := text.toList
  let inUnits := fun (unit : Float) (number : Option Float) =>
    number.map fun x => (x * unit * 1000.0).ceil.toUInt64.toNat
  match readMeasure? s, s.getLast?.bind fun c => timeUnits.lookup c with
  | some number, _ => some (inUnits 1.0 number)
  | none, some unit => (readMeasure? s.dropLast).map (inUnits unit)
  | none, none => none

end ProjectCheck.Shell
