import ProjectCheck.Number.Shortest
import ProjectCheck.Table
import ProjectCheck.Text.Class
import ProjectCheck.Text.Cut

/-!
# Reading numbers

Integers are read from digits of any script.  A text of more than 4300 digits is refused, however
small its value.  `readInteger` also takes surrounding blanks, a sign, and single underscores
between digits.

Decimals are read into the nearest floating-point number; exponents far outside the range are cut
short, since they give zero or infinity.
-/

namespace ProjectCheck.Number

open ProjectCheck.Text

/-- Why a text is refused as an integer. -/
inductive IntegerFault where
  | notAnInteger
  | tooManyDigits
deriving Repr, DecidableEq

/-- The most digits that a text of an integer may have. -/
def integerDigitLimit : Nat :=
  4300

/-- The value of digits, most significant first. -/
def valueOfDigits (digits : List Nat) : Nat :=
  digits.foldl (fun n d => 10 * n + d) 0

/-- Reads digits of any script. -/
def readDigits (s : List Char) : Except IntegerFault Nat :=
  match s.mapM digitValue? with
  | none => .error .notAnInteger
  | some [] => .error .notAnInteger
  | some digits =>
    if digits.length > integerDigitLimit then .error .tooManyDigits else .ok (valueOfDigits digits)

/-- Drops single underscores between digits; refuses all others. -/
def dropUnderscores? : List Char → Option (List Char)
  | [] => some []
  | [c] => if c == '_' then none else some [c]
  | c :: d :: rest =>
    if c == '_' then none
    else if d == '_' then
      match rest with
      | [] => none
      | e :: _ => if e == '_' then none else (dropUnderscores? rest).map (c :: ·)
    else (dropUnderscores? (d :: rest)).map (c :: ·)

/-- A sign in front of a text, and the text after it. -/
def takeSign : List Char → Bool × List Char
  | '-' :: rest => (true, rest)
  | '+' :: rest => (false, rest)
  | s => (false, s)

/-- Reads an integer with surrounding blanks, a sign and underscores between digits. -/
def readInteger (s : List Char) : Except IntegerFault Int := do
  let (negative, body) := takeSign (trim s)
  match dropUnderscores? body with
  | none => .error .notAnInteger
  | some digits =>
    let n ← readDigits digits
    return if negative then -(n : Int) else n

/-- The nearest floating-point number to `digits * 10 ^ exponent`. -/
def nearestFloat (digits : Nat) (exponent : Int) : Float :=
  if digits == 0 then 0.0
  else
    let lead := exponent + digitCount digits
    if lead > 400 then 1.0 / 0.0
    else if lead < -400 then 0.0
    else Float.ofScientific digits (exponent < 0) exponent.natAbs

/-- The nearest floating-point number to an integer. -/
def floatOfInt (n : Int) : Float :=
  let size := nearestFloat n.natAbs 0
  if n < 0 then -size else size

/-- A finite number without a fractional part, as an integer. -/
def integralFloat? (x : Float) : Option Int :=
  if x.isNaN || x.isInf then none
  else
    let f := BinaryFraction.ofFloat x
    let scale := Nat.pow 2 (-f.exponent).toNat
    let scaled := f.significand * Nat.pow 2 f.exponent.toNat
    if scaled % scale == 0 then
      let size : Int := (scaled / scale : Nat)
      some (if isNegative x then -size else size)
    else none

/-- A finite number with its fractional part dropped. -/
def truncateFloat? (x : Float) : Option Int :=
  if x.isNaN || x.isInf then none
  else
    let f := BinaryFraction.ofFloat x
    let size : Int := (f.significand * Nat.pow 2 f.exponent.toNat / Nat.pow 2 (-f.exponent).toNat : Nat)
    some (if isNegative x then -size else size)

/-!
## Decimals in ASCII digits

The parts of a decimal at the front of a text, and whole texts that are a decimal or one of the
words for infinity and for what is no number.
-/

/-- Whether a character is an ASCII digit. -/
def isAsciiDigit (c : Char) : Bool :=
  '0' ≤ c && c ≤ '9'

/-- The digits at the front. -/
def takeAsciiDigits (s : List Char) : List Char × List Char :=
  (s.takeWhile isAsciiDigit, s.dropWhile isAsciiDigit)

/-- The value of ASCII digits, most significant first. -/
def asciiValue (digits : List Char) : Nat :=
  valueOfDigits (digits.map fun c => c.toNat - 48)

/-- An exponent, if its mark, perhaps a sign, and a digit follow. -/
def takeExponent (s : List Char) : Option Int × List Char :=
  match s with
  | mark :: rest =>
    if mark == 'e' || mark == 'E' then
      let (negative, body) := takeSign rest
      match takeAsciiDigits body with
      | ([], _) => (none, s)
      | (digits, after) =>
        let n : Int := asciiValue digits
        (some (if negative then -n else n), after)
    else (none, s)
  | [] => (none, s)

/-- A decimal without a sign: digits, perhaps with a point among, before or behind them, and perhaps
an exponent. -/
def readUnsigned? (s : List Char) : Option Float :=
  let (whole, afterWhole) := takeAsciiDigits s
  let (fraction, afterFraction) := match afterWhole with
    | '.' :: rest => takeAsciiDigits rest
    | rest => ([], rest)
  let digits := whole ++ fraction
  if digits.isEmpty then none
  else
    match takeExponent afterFraction with
    | (exponent, []) => some (nearestFloat (asciiValue digits) (exponent.getD 0 - fraction.length))
    | _ => none

/-- The decimal at the front of a text, perhaps with a sign, and what stands behind it; nothing if there is
none. -/
def takeDecimal? (s : List Char) : Option (Float × List Char) :=
  let (isNegative, body) := takeSign s
  let (whole, behind) := takeAsciiDigits body
  let fraction := match behind with
    | '.' :: rest => (takeAsciiDigits rest).1
    | _ => []
  if whole.isEmpty && fraction.isEmpty then none
  else
    let point := if behind.head? == some '.' then 1 else 0
    let (exponent, rest) := takeExponent (behind.drop (point + fraction.length))
    let size := nearestFloat (asciiValue (whole ++ fraction))
      (exponent.getD 0 - fraction.length)
    some (if isNegative then -size else size, rest)

/-- The words for infinity and for what is no number, in lower case. -/
def specialWords : List (String × Float) :=
  [("inf", 1.0 / 0.0), ("infinity", 1.0 / 0.0), ("nan", 0.0 / 0.0)]

/-- A decimal or a special word, perhaps with a sign. -/
def readDecimal? (s : List Char) : Option Float :=
  let (negative, body) := takeSign s
  let size := match Table.get? (String.ofList (body.map Char.toLower)) specialWords with
    | some x => some x
    | none => readUnsigned? body
  size.map fun x => if negative then -x else x

end ProjectCheck.Number
