import ProjectCheck.Number.Reading
import ProjectCheck.Text.Quoted
import ProjectCheck.Value.Basic

/-!
# Reading JSON

`readJson` reads a whole JSON text.  Besides the standard it knows `NaN`, `Infinity` and
`-Infinity`.  A control character inside a string, a byte-order mark in front, an integer of more
than 4300 digits and anything after the value are refused.  Of two members with one name the later
value is kept, in the place of the earlier one.  Arrays and objects may be nested up to a limit.

A number without a fraction and an exponent is an integer of any size, any other number is a
floating-point number.  Two escapes that form a surrogate pair give one character; a surrogate that
stands alone gives the replacement character.
-/

namespace ProjectCheck.Value

open ProjectCheck.Number ProjectCheck.Text

/-- Why a text gives no value. -/
inductive JsonFault where
  /-- The text is no JSON. -/
  | malformed
  /-- Arrays and objects are nested too deeply. -/
  | tooDeep
deriving Repr, DecidableEq

/-! ## Tokens -/

/-- Drops insignificant white space. -/
def skipJsonBlank (s : List Char) : List Char :=
  s.dropWhile fun c => c == ' ' || c == '\t' || c == '\n' || c == '\r'

/-- The character of a code point, or the replacement character for a surrogate. -/
def charOfCode (n : Nat) : Char :=
  if 0xD800 ≤ n && n ≤ 0xDFFF then '\uFFFD' else Char.ofNat n

/-- Four hexadecimal digits at the front. -/
def takeCode? : List Char → Option (Nat × List Char)
  | a :: b :: c :: d :: rest => (hexNumber? [a, b, c, d]).map (·, rest)
  | _ => none

/-- Takes the low half of a surrogate pair, if one follows. -/
def takeLowHalf? : List Char → Option (Nat × List Char)
  | '\\' :: 'u' :: rest =>
    match takeCode? rest with
    | some (n, after) => if 0xDC00 ≤ n && n ≤ 0xDFFF then some (n, after) else none
    | none => none
  | _ => none

/-- The character of an escape by code, after its `\u`. -/
def takeEscapedCode? (s : List Char) : Option (Char × List Char) :=
  match takeCode? s with
  | none => none
  | some (n, rest) =>
    if 0xD800 ≤ n && n ≤ 0xDBFF then
      match takeLowHalf? rest with
      | some (low, after) =>
        some (Char.ofNat (0x10000 + (n - 0xD800) * 0x400 + (low - 0xDC00)), after)
      | none => some (charOfCode n, rest)
    else some (charOfCode n, rest)

/-- The character that a letter stands for after a backslash. -/
def escapedLetter? : Char → Option Char
  | '"' => some '"'
  | '\\' => some '\\'
  | '/' => some '/'
  | 'b' => some '\x08'
  | 'f' => some '\x0c'
  | 'n' => some '\n'
  | 'r' => some '\r'
  | 't' => some '\t'
  | _ => none

/-- The rest of a string after its opening quote, with what follows its closing quote. -/
def takeString? : Nat → List Char → Option (List Char × List Char)
  | 0, _ => none
  | _ + 1, [] => none
  | _ + 1, '"' :: rest => some ([], rest)
  | fuel + 1, '\\' :: 'u' :: rest =>
    match takeEscapedCode? rest with
    | some (c, after) => (takeString? fuel after).map fun cut => (c :: cut.1, cut.2)
    | none => none
  | fuel + 1, '\\' :: letter :: rest =>
    match escapedLetter? letter with
    | some c => (takeString? fuel rest).map fun cut => (c :: cut.1, cut.2)
    | none => none
  | fuel + 1, c :: rest =>
    if c == '\\' || c.toNat < 0x20 then none
    else (takeString? fuel rest).map fun cut => (c :: cut.1, cut.2)

/-- The digits of an integer part: a zero alone, or digits that do not begin with zero. -/
def takeWhole? : List Char → Option (List Char × List Char)
  | '0' :: rest => some (['0'], rest)
  | s =>
    match takeAsciiDigits s with
    | ([], _) => none
    | cut => some cut

/-- The digits of a fraction, if a point and a digit follow. -/
def takeFraction : List Char → List Char × List Char
  | '.' :: rest =>
    match takeAsciiDigits rest with
    | ([], _) => ([], '.' :: rest)
    | cut => cut
  | s => ([], s)

/-- A number after its sign. -/
def takeNumber? (negative : Bool) (s : List Char) : Option (Value × List Char) :=
  match takeWhole? s with
  | none => none
  | some (whole, afterWhole) =>
    let (fraction, afterFraction) := takeFraction afterWhole
    let (exponent, rest) := takeExponent afterFraction
    let digits := asciiValue (whole ++ fraction)
    if fraction.isEmpty && exponent.isNone then
      if whole.length > integerDigitLimit then none
      else some (int (if negative then -(digits : Int) else digits), rest)
    else
      let size := nearestFloat digits (exponent.getD 0 - fraction.length)
      some (float (if negative then -size else size), rest)

/-- A word with a meaning of its own, or a number. -/
def takeScalar? (s : List Char) : Option (Value × List Char) :=
  let words : List (String × Value) :=
    [("null", null), ("true", bool true), ("false", bool false), ("NaN", float (0.0 / 0.0)),
     ("Infinity", float (1.0 / 0.0)), ("-Infinity", float (-1.0 / 0.0))]
  match words.findSome? fun word => (afterPrefix? word.1.toList s).map (word.2, ·) with
  | some found => some found
  | none =>
    match s with
    | '-' :: rest => takeNumber? true rest
    | _ => takeNumber? false s

/-! ## Values -/

/-- How many arrays and objects may be open at once. -/
def jsonNestingLimit : Nat :=
  985

/-- What there is, or the fault that the text is no JSON. -/
def orMalformed {α : Type} : Option α → Except JsonFault α
  | some a => .ok a
  | none => .error .malformed

mutual

/-- A value at the front of a text without leading white space; `level` arrays and objects are open
around it. -/
def takeJson : Nat → (level : Nat) → List Char → Except JsonFault (Value × List Char)
  | 0, _, _ => .error .malformed
  | _ + 1, _, '"' :: rest =>
    orMalformed ((takeString? (rest.length + 1) rest).map fun cut =>
      (text (String.ofList cut.1), cut.2))
  | fuel + 1, level, '[' :: rest =>
    if level ≥ jsonNestingLimit then .error .tooDeep
    else
      match skipJsonBlank rest with
      | ']' :: after => .ok (list [], after)
      | body => (takeItems fuel (level + 1) body).map fun cut => (list cut.1, cut.2)
  | fuel + 1, level, '\x7b' :: rest =>
    if level ≥ jsonNestingLimit then .error .tooDeep
    else
      match skipJsonBlank rest with
      | '\x7d' :: after => .ok (record [], after)
      | body =>
        (takeMembers fuel (level + 1) body).map fun cut => (record (Table.ofPairs cut.1), cut.2)
  | _ + 1, _, s => orMalformed (takeScalar? s)

/-- The items of an array up to its closing bracket. -/
def takeItems : Nat → (level : Nat) → List Char → Except JsonFault (List Value × List Char)
  | 0, _, _ => .error .malformed
  | fuel + 1, level, s => do
    let (item, rest) ← takeJson fuel level s
    match skipJsonBlank rest with
    | ']' :: after => return ([item], after)
    | ',' :: more =>
      let (items, rest) ← takeItems fuel level (skipJsonBlank more)
      return (item :: items, rest)
    | _ => throw .malformed

/-- The members of an object up to its closing brace. -/
def takeMembers : Nat → (level : Nat) → List Char →
    Except JsonFault (List (String × Value) × List Char)
  | 0, _, _ => .error .malformed
  | fuel + 1, level, '"' :: s => do
    let (name, afterName) ← orMalformed (takeString? (s.length + 1) s)
    match skipJsonBlank afterName with
    | ':' :: beforeValue =>
      let (value, rest) ← takeJson fuel level (skipJsonBlank beforeValue)
      match skipJsonBlank rest with
      | '\x7d' :: after => return ([(String.ofList name, value)], after)
      | ',' :: more =>
        let (members, rest) ← takeMembers fuel level (skipJsonBlank more)
        return ((String.ofList name, value) :: members, rest)
      | _ => throw .malformed
    | _ => throw .malformed
  | _ + 1, _, _ => .error .malformed

end

/-- Reads a whole JSON text.  Of two steps of the reader in a row one takes a character. -/
def readJson (s : List Char) : Except JsonFault Value := do
  let (value, rest) ← takeJson (2 * s.length + 1) 0 (skipJsonBlank s)
  if (skipJsonBlank rest).isEmpty then return value else throw .malformed

end ProjectCheck.Value
