import ProjectCheck.Calendar
import ProjectCheck.Number.Reading
import ProjectCheck.Text.Quoted
import ProjectCheck.Value.Basic
import ProjectCheck.Yaml.Place

/-!
# Moments in YAML

A plain scalar that is spelled like a date stands for that day, and one that goes on with a time
stands for that time of the day.  `timestamp?` reads the spelling alone, so it may give a moment that
the calendar does not have.

A date without a time is written with four, two and two digits; in front of a time the month and the
day may have one digit.  A time may have a fraction of any length, of which six digits count, and a
mark that says how far clocks are ahead of universal time.
-/

namespace ProjectCheck.Yaml

open ProjectCheck.Number

/-- Takes digits at the front, as many as there are between a least and a greatest number. -/
def takeNumber? (least greatest : Nat) (s : List Char) : Option (Nat × List Char) :=
  let digits := (s.takeWhile isAsciiDigit).take greatest
  if digits.length < least then none else some (asciiValue digits, s.drop digits.length)

/-- Takes a certain character at the front. -/
def takeMark? (mark : Char) : List Char → Option (List Char)
  | c :: rest => if c == mark then some rest else none
  | [] => none

/-- Takes the fields of a date, with at least so many digits for the month and the day. -/
def takeDate? (least : Nat) (s : List Char) : Option (Date × List Char) := do
  let (year, s) ← takeNumber? 4 4 s
  let (month, s) ← takeNumber? least 2 (← takeMark? '-' s)
  let (day, s) ← takeNumber? least 2 (← takeMark? '-' s)
  return (⟨year, month, day⟩, s)

/-- Whether a character is a blank or a tab. -/
def isGap (c : Char) : Bool :=
  c == ' ' || c == '\t'

/-- Takes what separates a date from a time. -/
def takeTimeMark? : List Char → Option (List Char)
  | c :: rest =>
    if c == 'T' || c == 't' then some rest
    else if isGap c then some (rest.dropWhile isGap)
    else none
  | [] => none

/-- The microseconds of a fraction. -/
def microsecondsOf (fraction : List Char) : Nat :=
  let digits := fraction.take 6
  asciiValue (digits ++ List.replicate (6 - digits.length) '0')

/-- Takes a fraction behind its point, if there is one. -/
def takeMicroseconds : List Char → Nat × List Char
  | '.' :: rest => (microsecondsOf (rest.takeWhile isAsciiDigit), rest.dropWhile isAsciiDigit)
  | s => (0, s)

/-- By how many minutes clocks are ahead of universal time; nothing in the inner place where nothing
is said of it. -/
def ahead? (s : List Char) : Option (Option Int) :=
  match s.dropWhile isGap with
  | ['Z'] => some (some 0)
  | sign :: rest =>
    if sign == '+' || sign == '-' then do
      let (hours, rest) ← takeNumber? 1 2 rest
      let minutes ← match rest with
        | [] => some 0
        | _ => do
          let (minutes, rest) ← takeNumber? 2 2 (← takeMark? ':' rest)
          if rest.isEmpty then some minutes else none
      let ahead : Int := (60 * hours + minutes : Nat)
      return some (if sign == '-' then -ahead else ahead)
    else none
  | [] => if s.isEmpty then some none else none

/-- The time of a day that a text is spelled like. -/
def clock? (s : List Char) : Option Clock := do
  let (hour, s) ← takeNumber? 1 2 s
  let (minute, s) ← takeNumber? 2 2 (← takeMark? ':' s)
  let (second, s) ← takeNumber? 2 2 (← takeMark? ':' s)
  let (microsecond, s) := takeMicroseconds s
  return { time := ⟨hour, minute, second, microsecond⟩, ahead := ← ahead? s }

/-- The moment that a text is spelled like. -/
def timestamp? (s : List Char) : Option Moment :=
  match takeDate? 2 s with
  | some (date, []) => some { date }
  | _ => do
    let (date, s) ← takeDate? 1 s
    return { date, clock := some (← clock? (← takeTimeMark? s)) }

/-!
## Plain scalars

What a scalar without quotes stands for: nothing, a truth value, an integer, a number, a moment, or
else its own text.  Integers may be written in base two, eight, ten or sixteen, and integers and
numbers also in base sixty with colons between the places; underscores in them mean nothing.  A number
needs a point, and its exponent a sign.

The spelling alone decides what a scalar stands for.  A spelling may then turn out to mean nothing:
underscores alone are no integer, decimal digits may be too many, and a calendar may lack a day.
-/

open ProjectCheck.Number ProjectCheck.Text

/-- The words that stand for nothing. -/
def nullWords : List String :=
  ["", "~", "null", "Null", "NULL"]

/-- The words that stand for yes. -/
def yesWords : List String :=
  ["yes", "Yes", "YES", "true", "True", "TRUE", "on", "On", "ON"]

/-- The words that stand for no. -/
def noWords : List String :=
  ["no", "No", "NO", "false", "False", "FALSE", "off", "Off", "OFF"]

/-- Whether a character is a digit or an underscore. -/
def isGrouped (isDigit : Char → Bool) (c : Char) : Bool :=
  c == '_' || isDigit c

/-- Whether a character is a digit of base eight. -/
def isOctalDigit (c : Char) : Bool :=
  '0' ≤ c && c ≤ '7'

/-- Whether a character is a digit of base two. -/
def isBinaryDigit (c : Char) : Bool :=
  c == '0' || c == '1'

/-- Whether a character is a digit of base sixteen. -/
def isHexDigit (c : Char) : Bool :=
  (hexValue? c).isSome

/-- The value of digits in a base, underscores left out.  Underscores alone have none, and of the
base ten too many digits have none. -/
def valueInBase (base : Nat) (digits : List Char) : Except Fault Nat :=
  let values := digits.filterMap hexValue?
  if values.isEmpty || (base == 10 && values.length > integerDigitLimit) then .error .meaningless
  else .ok (values.foldl (fun n d => base * n + d) 0)

/-- Whether a text is a place after the first in base sixty: one or two digits below sixty. -/
def isSixtieth : List Char → Bool
  | [c] => isAsciiDigit c
  | [a, b] => '0' ≤ a && a ≤ '5' && isAsciiDigit b
  | _ => false

/-- The value of places in base sixty, the highest first. -/
def valueInSixties (places : List Nat) : Nat :=
  places.foldl (fun n place => 60 * n + place) 0

/-- An integer without a sign, if a text is spelled like one. -/
def wholeNumber? (s : List Char) : Option (Except Fault Nat) :=
  let inBase := fun base (isDigit : Char → Bool) (digits : List Char) =>
    if !digits.isEmpty && digits.all (isGrouped isDigit) then some (valueInBase base digits)
    else none
  match s with
  | ['0'] => some (.ok 0)
  | '0' :: 'b' :: digits => inBase 2 isBinaryDigit digits
  | '0' :: 'x' :: digits => inBase 16 isHexDigit digits
  | '0' :: _ => inBase 8 isOctalDigit s
  | c :: _ =>
    if !isAsciiDigit c then none
    else
      match pieces ':' s with
      | [digits] => inBase 10 isAsciiDigit digits
      | first :: places =>
        if first.all (isGrouped isAsciiDigit) && places.all isSixtieth then
          some (valueInSixties <$> (first :: places).mapM (valueInBase 10))
        else none
      | [] => none
  | [] => none

/-- An integer, if a text is spelled like one. -/
def integer? (s : List Char) : Option (Except Fault Int) :=
  let (negative, body) := takeSign s
  (wholeNumber? body).map fun n => n.map fun n => if negative then -(n : Int) else n

/-- What follows the point of a number: digits, and perhaps an exponent with a sign. -/
def isFraction (s : List Char) : Bool :=
  match s.dropWhile (isGrouped isAsciiDigit) with
  | [] => true
  | mark :: sign :: digits =>
    (mark == 'e' || mark == 'E') && (sign == '-' || sign == '+') && !digits.isEmpty &&
      digits.all isAsciiDigit
  | _ => false

/-- Whether a text is a number with a point, without a sign.  A number that begins with the point
needs a digit behind it. -/
def isPointed (s : List Char) : Bool :=
  match s with
  | '.' :: c :: fraction => isAsciiDigit c && isFraction fraction
  | c :: _ =>
    isAsciiDigit c &&
      match s.dropWhile (isGrouped isAsciiDigit) with
      | '.' :: fraction => isFraction fraction
      | _ => false
  | [] => false

/-- The sum of places in base sixty, the lowest first, each in its turn added to what is summed up so
far; `unit` is the value of the first of them. -/
def sumInSixties (unit : Nat) (sum : Float) : List Float → Except Fault Float
  | [] => .ok sum
  | place :: rest =>
    let size := floatOfInt unit
    if size.isInf then .error .tooGreat
    else sumInSixties (60 * unit) (sum + place * size) rest

/-- A number in base sixty without a sign, the last place with a point, if a text is spelled like
one. -/
def pointedSixties? (s : List Char) : Option (Except Fault Float) :=
  match pieces ':' s with
  | first :: second :: more =>
    let places := second :: more
    let last := places.getLast?.getD []
    let whole := last.takeWhile (· != '.')
    let fraction := last.dropWhile (· != '.')
    let isWhole := first.head?.any isAsciiDigit && first.all (isGrouped isAsciiDigit)
    if isWhole && (places.dropLast ++ [whole]).all isSixtieth &&
        fraction.head? == some '.' && (fraction.drop 1).all (isGrouped isAsciiDigit) then
      let sizes := (first :: places).filterMap fun place => readUnsigned? (place.filter (· != '_'))
      some (sumInSixties 1 0.0 sizes.reverse)
    else none
  | _ => none

/-- The words for an infinite number. -/
def infinityWords : List String :=
  [".inf", ".Inf", ".INF"]

/-- The words for what is no number. -/
def notANumberWords : List String :=
  [".nan", ".NaN", ".NAN"]

/-- A number without a sign, if a text is spelled like one. -/
def size? (s : List Char) : Option (Except Fault Float) :=
  if infinityWords.contains (String.ofList s) then some (.ok (1.0 / 0.0))
  else if isPointed s then (readUnsigned? (s.filter (· != '_'))).map .ok
  else pointedSixties? s

/-- A number, if a text is spelled like one.  A sign in front of a leading point is no part of one. -/
def number? (s : List Char) : Option (Except Fault Float) :=
  if notANumberWords.contains (String.ofList s) then some (.ok (0.0 / 0.0))
  else
    let (negative, body) := takeSign s
    let isSigned := body.length != s.length
    if isSigned && body.head? == some '.' && !infinityWords.contains (String.ofList body) then none
    else (size? body).map fun x => x.map fun x => if negative then -x else x

/-- A moment, if a text is spelled like one. -/
def moment? (s : List Char) : Option (Except Fault Moment) :=
  (timestamp? s).map fun m => if m.isValid then .ok m else .error .meaningless

/-- What a plain scalar stands for. -/
def plainScalar (s : List Char) : Except Fault Value :=
  let word := String.ofList s
  if nullWords.contains word then .ok .null
  else if yesWords.contains word then .ok (.bool true)
  else if noWords.contains word then .ok (.bool false)
  else
    match number? s, integer? s, moment? s with
    | some x, _, _ => x.map .float
    | none, some n, _ => n.map .int
    | none, none, some m => m.map .moment
    | none, none, none => .ok (.text word)

end ProjectCheck.Yaml
