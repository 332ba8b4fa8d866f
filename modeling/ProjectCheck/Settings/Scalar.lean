import ProjectCheck.Number.Notation
import ProjectCheck.Number.Reading
import ProjectCheck.Path
import ProjectCheck.Settings.Refusal
import ProjectCheck.Text.Utf8

/-!
# Scalar settings

Reading texts, integers, numbers, truth values and choices.  A value of a related kind is taken
where nothing is lost: a text that spells a number, a number without a fraction where an integer is
wanted, the words for yes and no, and truth values as one and zero.
-/

namespace ProjectCheck.Settings

open ProjectCheck.Number ProjectCheck.Text

/-! ## Texts -/

/-- Reads a text; bytes that form one are taken too. -/
def readText (v : Value) : Reading String :=
  match v with
  | .text s => .done s
  | .bytes bs =>
    match exactTextOfBytes? bs with
    | some s => .done s
    | none => .refuse .undecodable v
  | _ => .refuse .notText v

/-- Reads a text or nothing. -/
def readOptionalText (v : Value) : Reading (Option String) :=
  match v with
  | .null => .done none
  | _ => some <$> readText v

/-- Reads one of some choices. -/
def readChoice {α : Type} (choices : List (String × α)) (v : Value) : Reading α :=
  match v.text?.bind fun s => Table.get? s choices with
  | some a => .done a
  | none => .refuse (.notAmong (choices.map (·.1))) v

/-- Reads one of some choices or nothing. -/
def readOptionalChoice {α : Type} (choices : List (String × α)) (v : Value) :
    Reading (Option α) :=
  match v with
  | .null => .done none
  | _ => some <$> readChoice choices v

/-! ## Spelled numbers -/

/-- Whether a character may surround a spelled number: it is blank and separates no records. -/
def isMargin (c : Char) : Bool :=
  isBlank c && !(0x1C ≤ c.toNat && c.toNat ≤ 0x1F)

/-- A text without the blanks around it. -/
def withoutMargins (s : List Char) : List Char :=
  dropEndWhile isMargin (s.dropWhile isMargin)

/-- Drops the underscores of a text; they may stand neither at an end nor next to each other. -/
def joinGroups? (s : List Char) : Option (List Char) :=
  if s.head? == some '_' || s.getLast? == some '_' || occursIn ['_', '_'] s then none
  else some (s.filter (· != '_'))

/-- What is left of a spelled integer without the zeros in front of it, underscores among them left
out as well.  The last zero stays if nothing or a point comes behind it. -/
def dropLeadingZeros? (s : List Char) : Option (List Char) :=
  match s with
  | '0' :: _ =>
    let zeros := s.takeWhile fun c => c == '0' || c == '_'
    let last := zeros.drop (zeros.length - 1)
    match s.drop zeros.length with
    | [] => some last
    | c :: after =>
      if ('1' ≤ c && c ≤ '9') || c == '-' then some (c :: after)
      else if c == '.' then some (last ++ c :: after)
      else none
  | c :: _ => if '1' ≤ c && c ≤ '9' then some s else none
  | [] => none

/-- Drops a point that only zeros follow, one of them at least. -/
def dropZeroFraction (s : List Char) : List Char :=
  match cutAt? ['.'] s with
  | some (whole, fraction) =>
    if !fraction.isEmpty && fraction.all (· == '0') then whole else s
  | none => s

/-- Whether digits are an integer in plain spelling: they do not begin with a zero, unless that is
all. -/
def isPlainInteger (digits : List Char) : Bool :=
  digits == ['0'] || (digits.all isAsciiDigit && digits.head?.any (· != '0'))

/-- The plain spelling of an integer: its sign and its digits.  Behind zeros a minus may stand that
the integer does not begin with. -/
def integerDigits? (s : List Char) : Option (Bool × List Char) := do
  let body := withoutMargins s
  let (negative, size) ← match body with
    | '+' :: '-' :: _ => none
    | '+' :: rest => some (false, rest)
    | '-' :: rest => some (true, rest)
    | _ => some (false, body)
  let digits ← joinGroups? (dropZeroFraction (← dropLeadingZeros? size))
  let (turned, digits) := match digits with
    | '-' :: rest => (true, rest)
    | _ => (false, digits)
  if (negative && turned) || !isPlainInteger digits then none
  else return (negative || turned, digits)

/-- How many characters at the front of a text are an integer in plain spelling, its minus
included. -/
def plainIntegerLength (s : List Char) : Nat :=
  let sign := match s with
    | '-' :: _ => 1
    | _ => 0
  match s.drop sign with
  | '0' :: _ => sign + 1
  | digits => sign + (digits.takeWhile isAsciiDigit).length

/-- Reads a spelled integer, which is the input `v`.  If it is too long in plain spelling, that is
said of it whatever follows; in any other spelling it is then no integer at all. -/
def readSpelledInteger (v : Value) (s : String) : Reading Int :=
  if plainIntegerLength s.toList > integerDigitLimit then .refuse .oversizedInteger v
  else
    match integerDigits? s.toList with
    | none => .refuse .unreadableInteger v
    | some (negative, digits) =>
      if digits.length + (if negative then 1 else 0) > integerDigitLimit then
        .refuse .unreadableInteger v
      else
        let n : Int := asciiValue digits
        .done (if negative then -n else n)

/-- Reads a spelled number, which is the input `v`. -/
def readSpelledNumber (v : Value) (s : String) : Reading Float :=
  match readDecimal? (withoutMargins s.toList) with
  | some x => .done x
  | none =>
    match (joinGroups? s.toList).bind readDecimal? with
    | some x => .done x
    | none => .refuse .unreadableNumber v

/-- The words for yes and no, in lower case. -/
def truthWords : List (String × Bool) :=
  [("0", false), ("off", false), ("f", false), ("false", false), ("n", false), ("no", false),
   ("1", true), ("on", true), ("t", true), ("true", true), ("y", true), ("yes", true)]

/-- Reads a spelled truth value, which is the input `v`. -/
def readSpelledTruth (v : Value) (s : String) : Reading Bool :=
  match Table.get? (String.ofList (s.toList.map Char.toLower)) truthWords with
  | some b => .done b
  | none => .refuse .unreadableTruth v

/-! ## Numbers and truth values -/

/-- The size from which on a floating-point number is no integer setting. -/
def integerCeiling : Nat :=
  Nat.pow 2 63

/-- Reads a floating-point number as an integer, which is the input `v`. -/
def readIntegral (v : Value) (x : Float) : Reading Int :=
  if x.isNaN || x.isInf then .refuse .notFinite v
  else
    match integralFloat? x with
    | none => .refuse .fractional v
    | some n => if n.natAbs < integerCeiling then .done n else .refuse .oversizedInteger v

/-- Reads an integer. -/
def readInteger (v : Value) : Reading Int :=
  match v with
  | .int n => .done n
  | .bool b => .done (if b then 1 else 0)
  | .float x => readIntegral v x
  | .text s => readSpelledInteger v s
  | .bytes bs =>
    match exactTextOfBytes? bs with
    | some s => readSpelledInteger v s
    | none => .refuse .unreadableInteger v
  | _ => .refuse .notInteger v

/-- Reads a number. -/
def readNumber (v : Value) : Reading Float :=
  match v with
  | .float x => .done x
  | .int n =>
    let x := floatOfInt n
    if x.isInf then .refuse .notNumber v else .done x
  | .bool b => .done (if b then 1.0 else 0.0)
  | .text s => readSpelledNumber v s
  | .bytes bs =>
    match exactTextOfBytes? bs with
    | some s => readSpelledNumber v s
    | none => .refuse .unreadableNumber v
  | _ => .refuse .notNumber v

/-- Whether an integer has 64 bits at most, one of them for its sign. -/
def isMachineInteger (n : Int) : Bool :=
  -integerCeiling ≤ n && n < integerCeiling

/-- Reads an integer as a truth value, which is the input `v`. -/
def truthOfInt (v : Value) (n : Int) : Reading Bool :=
  if n == 0 then .done false
  else if n == 1 then .done true
  else .refuse (if isMachineInteger n then .unreadableTruth else .notTruth) v

/-- Reads a truth value. -/
def readTruth (v : Value) : Reading Bool :=
  match v with
  | .bool b => .done b
  | .int n => truthOfInt v n
  | .float x =>
    match readIntegral v x with
    | .done n => truthOfInt v n
    | .refused _ => .refuse .notTruth v
  | .text s => readSpelledTruth v s
  | .bytes bs =>
    match exactTextOfBytes? bs with
    | some s => readSpelledTruth v s
    | none => .refuse .unreadableTruth v
  | _ => .refuse .notTruth v

/-!
## Destinations of log lines

A destination is the name of a standard stream or an absolute path.  In a path the segments that
stand for nothing are dropped, two slashes in front are kept as they are, and a leading tilde stands
for a home directory.
-/

open ProjectCheck.Text

/-- The home directories of the users that exist, the first being that of the user at work. -/
def homeOf? (home : String) (user : List Char) : Option String :=
  if user.isEmpty then some home else if user == "root".toList then some "/root" else none

/-- A path with a home directory in place of a leading tilde. -/
def expandHome? (home : String) (path : List Char) : Option (List Char) :=
  match Path.rootOf path, Path.segments path with
  | [], ('~' :: user) :: rest =>
    (homeOf? home user).map fun directory =>
      Path.tidy (joinWith ['/'] (directory.toList :: rest))
  | _, _ => some (Path.tidy path)

/-- The names of the standard streams. -/
def streamNames : List String :=
  ["stderr", "stdout"]

/-- Reads a destination, which is the input `v`. -/
def readDestination (home : String) (v : Value) (s : String) : Reading String :=
  if streamNames.contains s then .done s
  else
    match expandHome? home s.toList with
    | none => .refused .unknownHome
    | some path =>
      if Path.isAbsolute path then .done (String.ofList path)
      else .refuse (.against ("File destination must be absolute path: " ++ s)) v

end ProjectCheck.Settings
