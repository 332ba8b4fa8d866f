import ProjectCheck.Shell.Lines

/-!
# Orders of lines

The ways in which two texts are compared: byte by byte, perhaps without regard to the case of letters or
to signs, by the numbers at their fronts, by the months that they name, or as versions, in which runs of
digits count as numbers.
-/

namespace ProjectCheck.Shell

open ProjectCheck.Number ProjectCheck.Text

/-- A way to compare texts. -/
inductive OrderWay where
  | bytes
  | numbers
  /-- By numbers that may have an exponent. -/
  | reals
  /-- By numbers with the letters of units behind them. -/
  | sizes
  | months
  | versions
deriving Repr, DecidableEq

namespace OrderWay

/-- Whether a byte is a digit. -/
def isDigitByte (b : UInt8) : Bool :=
  48 ≤ b && b ≤ 57

/-- Whether a byte is a letter. -/
def isLetterByte (b : UInt8) : Bool :=
  (65 ≤ b && b ≤ 90) || (97 ≤ b && b ≤ 122)

/-! ## Numbers -/

/-- A number at the front of a text: its sign, its digits in front of the point without the zeros at
their beginning, those behind it without the zeros at their end, and what follows. -/
structure FrontNumber where
  isNegative : Bool
  whole : List UInt8
  fraction : List UInt8
  rest : List UInt8

/-- The number at the front of a text; nothing is zero. -/
def frontNumber (s : List UInt8) : FrontNumber :=
  let s := s.dropWhile fun b => b == 32 || b == 9
  let isNegative := s.head? == some 45
  let s := if isNegative then s.drop 1 else s
  let whole := s.takeWhile isDigitByte
  let behind := s.drop whole.length
  let fraction := match behind with
    | 46 :: rest => rest.takeWhile isDigitByte
    | _ => []
  let rest := if behind.head? == some 46 then behind.drop (fraction.length + 1) else behind
  { isNegative, whole := whole.dropWhile (· == 48), fraction := (fraction.reverse.dropWhile (· == 48)).reverse, rest }

/-- Whether a number is zero. -/
def FrontNumber.isZero (n : FrontNumber) : Bool :=
  n.whole.isEmpty && n.fraction.isEmpty

/-- The order of two numbers. -/
def FrontNumber.compare (a b : FrontNumber) : Ordering :=
  let sizes := (Ord.compare a.whole.length b.whole.length).then
    ((Ord.compare a.whole b.whole).then (Ord.compare a.fraction b.fraction))
  match a.isNegative && !a.isZero, b.isNegative && !b.isZero with
  | false, false => sizes
  | true, true => sizes.swap
  | true, false => .lt
  | false, true => .gt

/-- How great the unit behind a number is, below zero for a negative one; a zero has none. -/
def unitRank (n : FrontNumber) : Int :=
  let letters := [(75, 1), (107, 1), (77, 2), (71, 3), (84, 4), (80, 5), (69, 6), (90, 7), (89, 8)]
  let rank : Nat := ((n.rest.head?).bind fun (b : UInt8) => letters.lookup b).getD 0
  if n.isZero then 0 else if n.isNegative then -(rank : Int) else rank

/-- The real number at the front of a text. -/
def frontReal? (s : List UInt8) : Option Float :=
  let chars := (s.map fun b => Char.ofNat b.toNat).dropWhile Char.isWhitespace
  let (isNegative, body) := takeSign chars
  let low := body.map Char.toLower
  match specialWords.find? fun (word, _) => word.toList.isPrefixOf low with
  | some (_, x) => some (if isNegative then -x else x)
  | none => (takeDecimal? chars).map (·.1)

/-- The order of two real numbers: texts without one stand first, then those that are no number. -/
def compareReals (a b : Option Float) : Ordering :=
  match a, b with
  | none, none => .eq
  | none, some _ => .lt
  | some _, none => .gt
  | some a, some b =>
    if a < b then .lt
    else if a > b then .gt
    else if a == b then .eq
    else compare (if a == a then 1 else 0) (if b == b then 1 else 0)

/-! ## Months -/

/-- The place of the month that a text begins with in the year; zero if there is none. -/
def monthRank (s : List UInt8) : Nat :=
  let lead := ((s.dropWhile fun b => b == 32 || b == 9).take 3).map capitalByte
  let names := ["JAN", "FEB", "MAR", "APR", "MAY", "JUN", "JUL", "AUG", "SEP", "OCT", "NOV", "DEC"]
  match names.findIdx? fun name => bytesOf name == lead with
  | some i => i + 1
  | none => 0

/-! ## Versions -/

/-- The rank of the first byte of what is left of a part without digits: the end of a text stands before
digits, a tilde before the end, and letters before other signs. -/
def signRank : List UInt8 → Int
  | [] => -1
  | b :: _ =>
    if isDigitByte b then 0
    else if isLetterByte b then b.toNat
    else if b == 126 then -2
    else b.toNat + 256

/-- The order of two texts as versions: parts without digits are compared by the ranks of their signs, and
runs of digits as numbers. -/
def compareParts : Nat → List UInt8 → List UInt8 → Ordering
  | 0, _, _ => .eq
  | fuel + 1, a, b =>
    if a.isEmpty && b.isEmpty then .eq
    else
      let isSign := fun (s : List UInt8) => s.head?.any (!isDigitByte ·)
      if isSign a || isSign b then
        match compare (signRank a) (signRank b) with
        | .eq => compareParts fuel (a.drop 1) (b.drop 1)
        | order => order
      else
        let m := (a.takeWhile isDigitByte).dropWhile (· == 48)
        let n := (b.takeWhile isDigitByte).dropWhile (· == 48)
        ((compare m.length n.length).then (compare m n)).then
          (compareParts fuel (a.dropWhile isDigitByte) (b.dropWhile isDigitByte))

/-- Whether a text is made of endings of file names alone. -/
def isEndings : Nat → List UInt8 → Bool
  | 0, s => s.isEmpty
  | fuel + 1, s =>
    match s with
    | [] => true
    | 46 :: b :: rest =>
      (isLetterByte b || b == 126) &&
        isEndings fuel (rest.dropWhile fun b => isLetterByte b || isDigitByte b || b == 126)
    | _ => false

/-- A text without the endings of file names, but never without its first byte. -/
def withoutEndings (s : List UInt8) : List UInt8 :=
  match (List.range s.length).find? fun n => isEndings s.length (s.drop (n + 1)) with
  | some n => s.take (n + 1)
  | none => s

/-- The order of two texts as versions of files. -/
def compareVersions (a b : List UInt8) : Ordering :=
  let fuel := a.length + b.length + 1
  let dots : List (List UInt8) := [[46], [46, 46]]
  let rank := fun (s : List UInt8) =>
    if s.isEmpty then 0
    else match dots.findIdx? (· == s) with
      | some i => i + 1
      | none => if s.head? == some 46 then 3 else 4
  match compare (rank a) (rank b) with
  | .eq =>
    (compareParts fuel (withoutEndings a) (withoutEndings b)).then (compareParts fuel a b)
  | order => order

/-- The order of two texts in a way. -/
def compare (way : OrderWay) (a b : List UInt8) : Ordering :=
  match way with
  | bytes => Ord.compare a b
  | numbers => (frontNumber a).compare (frontNumber b)
  | reals => compareReals (frontReal? a) (frontReal? b)
  | sizes =>
    let (m, n) := (frontNumber a, frontNumber b)
    (Ord.compare (unitRank m) (unitRank n)).then (m.compare n)
  | months => Ord.compare (monthRank a) (monthRank b)
  | versions => compareVersions a b

end OrderWay

/-! ## Manners -/

/-- How a key is compared. -/
structure OrderManner where
  way : OrderWay := .bytes
  isReverse : Bool := false
  isFolded : Bool := false
  /-- Whether letters, digits and blanks alone count. -/
  isDictionary : Bool := false
  /-- Whether what does not show is left out. -/
  isShownOnly : Bool := false
  /-- Whether blanks in front of the first and of the last character of the key do not count. -/
  skipsFirst : Bool := false
  skipsLast : Bool := false
deriving Repr, DecidableEq

namespace OrderManner

/-- The order of two keys. -/
def compare (manner : OrderManner) (a b : List UInt8) : Ordering :=
  let kept := fun (s : List UInt8) =>
    let s := if manner.isDictionary then
        s.filter fun b => isBlankByte b || OrderWay.isLetterByte b || OrderWay.isDigitByte b
      else if manner.isShownOnly then s.filter fun b => 32 ≤ b && b < 127
      else s
    if manner.isFolded then s.map capitalByte else s
  let order := match manner.way with
    | .bytes => Ord.compare (kept a) (kept b)
    | way => way.compare a b
  if manner.isReverse then order.swap else order

end OrderManner

end ProjectCheck.Shell
