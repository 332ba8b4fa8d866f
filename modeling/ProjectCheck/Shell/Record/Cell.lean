import ProjectCheck.Number.Reading
import ProjectCheck.Shell.Printing

/-!
# Cells

The values of scripts for records: texts and numbers, of which each can be taken for the other.  A
text that was read counts as a number where it looks like one.

A character of a text stands for one byte, so the length of a text is its number of bytes.
-/

namespace ProjectCheck.Shell.Record

open ProjectCheck.Number

/-- A value. -/
inductive Cell where
  | unset
  | number (x : Float)
  | text (s : List Char)
  /-- A text that was read. -/
  | input (s : List Char)
deriving Repr, Inhabited

/-- Bytes as characters. -/
def charsOf (bytes : List UInt8) : List Char :=
  bytes.map fun b => Char.ofNat b.toNat

/-- The bytes for which characters stand. -/
def bytesOfChars (s : List Char) : List UInt8 :=
  s.map fun c => UInt8.ofNat c.toNat

/-- A text as characters that stand for its bytes. -/
def charsOfText (s : String) : List Char :=
  charsOf (bytesOf s)

/-- Characters that stand for bytes, as a text. -/
def textOfChars (s : List Char) : String :=
  Text.stringOfBytes (bytesOfChars s)

/-- Whether a character is a gap between words. -/
def isGap (c : Char) : Bool :=
  c == ' ' || c == '\t' || c == '\n'

/-- The number at the front of a text, and what stands behind it; nothing if there is none. -/
def frontNumber? (s : List Char) : Option (Float × List Char) :=
  takeDecimal? (s.dropWhile isGap)

/-- The number that a text looks like. -/
def wholeNumber? (s : List Char) : Option Float :=
  (frontNumber? s).bind fun (x, rest) => if rest.all isGap then some x else none

/-- A number as a text: a whole number with all its digits, another with six that count. -/
def numberText (x : Float) : List Char :=
  let short := fun () => charsOf (({ precision := some 6 } : FormatForm).real 'g' x)
  match integralFloat? x with
  | some n => if n.natAbs < Nat.pow 10 18 then (toString n).toList else short ()
  | none => short ()

namespace Cell

/-- The number for which a value is taken. -/
def toNumber : Cell → Float
  | unset => 0.0
  | number x => x
  | text s => ((frontNumber? s).map (·.1)).getD 0.0
  | input s => ((frontNumber? s).map (·.1)).getD 0.0

/-- The text for which a value is taken. -/
def toChars : Cell → List Char
  | unset => []
  | number x => numberText x
  | text s => s
  | input s => s

/-- The number that a value is, if it counts as one. -/
def asNumber? : Cell → Option Float
  | unset => some 0.0
  | number x => some x
  | text _ => none
  | input s => wholeNumber? s

/-- Whether a value counts as true. -/
def holds : Cell → Bool
  | unset => false
  | number x => x != 0.0
  | text s => !s.isEmpty
  | input s =>
    match wholeNumber? s with
    | some x => x != 0.0
    | none => !s.isEmpty

/-- A truth as a value. -/
def ofBool (b : Bool) : Cell :=
  number (if b then 1.0 else 0.0)

/-- A whole number as a value. -/
def ofNat (n : Nat) : Cell :=
  number (floatOfInt n)

/-- Whether a value comes before another, is the same, or comes after it: as numbers if both count as
such, else as texts. -/
def compare (sign : String) (a b : Cell) : Bool :=
  match a.asNumber?, b.asNumber? with
  | some x, some y =>
    match sign with
    | "<" => x < y
    | "<=" => x ≤ y
    | ">" => y < x
    | ">=" => y ≤ x
    | "!=" => x != y
    | _ => x == y
  | _, _ =>
    let x := a.toChars
    let y := b.toChars
    match sign with
    | "<" => decide (x < y)
    | "<=" => !decide (y < x)
    | ">" => decide (y < x)
    | ">=" => !decide (x < y)
    | "!=" => x != y
    | _ => x == y

/-- The whole number that a value is cut to. -/
def toInt (c : Cell) : Int :=
  (truncateFloat? c.toNumber).getD 0

end Cell

end ProjectCheck.Shell.Record
