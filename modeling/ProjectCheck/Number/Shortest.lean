/-!
# Shortest decimals

The decimal with the fewest digits that reads back to a given binary floating-point value.

A positive finite value is a significand times a power of two.  The real numbers that round to it
form an interval around it, whose ends belong to it when the significand is even; below a power of
two the lower half of the interval is half as wide.  For one digit, two digits and so on up to
seventeen the two neighbours of the value on the grid of that many digits are tested against the
interval.  The first grid with a hit gives the decimal; of two hits the nearer one is taken, and
the even one on a tie.
-/

namespace ProjectCheck.Number

/-- A positive binary fraction `significand * 2 ^ exponent`. -/
structure BinaryFraction where
  significand : Nat
  exponent : Int
  /-- The neighbour below is half as far away as the one above. -/
  tightBelow : Bool
deriving Repr, DecidableEq

/-- The size of a finite value, without its sign. -/
def BinaryFraction.ofFloat (x : Float) : BinaryFraction :=
  let bits : Nat := x.toBits.toNat
  let field : Nat := bits / Nat.pow 2 52 % Nat.pow 2 11
  let fraction : Nat := bits % Nat.pow 2 52
  if field == 0 then ⟨fraction, -1074, false⟩
  else ⟨Nat.pow 2 52 + fraction, (field : Int) - 1075, fraction == 0 && field > 1⟩

/-- Whether the sign of a value is set. -/
def isNegative (x : Float) : Bool :=
  x.toBits.toNat / Nat.pow 2 63 == 1

/-- Digits and the power of ten they are multiplied with. -/
structure Decimal where
  digits : Nat
  exponent : Int
deriving Repr, DecidableEq

/-- A value and the ends of its interval, as quotients over one denominator. -/
structure Interval where
  low : Nat
  value : Nat
  high : Nat
  denominator : Nat
  closed : Bool
deriving Repr, DecidableEq

/-- The interval of the real numbers that round to a value. -/
def BinaryFraction.interval (x : BinaryFraction) : Interval :=
  let scale := Nat.pow 2 x.exponent.toNat
  { low := (4 * x.significand - if x.tightBelow then 1 else 2) * scale
    value := 4 * x.significand * scale
    high := (4 * x.significand + 2) * scale
    denominator := 4 * Nat.pow 2 (-x.exponent).toNat
    closed := x.significand % 2 == 0 }

/-- How many digits a positive number has. -/
def digitCount (n : Nat) : Nat :=
  (Nat.toDigits 10 n).length

/-- How many zeros follow the point of a fraction below one, up to `limit`. -/
def leadingZeros (numerator denominator : Nat) : Nat → Nat
  | 0 => 0
  | limit + 1 =>
    if 10 * numerator < denominator then 1 + leadingZeros (10 * numerator) denominator limit else 0

/-- The least power of ten that exceeds a positive value. -/
def Interval.magnitude (i : Interval) : Int :=
  if i.denominator ≤ i.value then digitCount (i.value / i.denominator)
  else -(leadingZeros i.value i.denominator 400 : Int)

/-- Whether the point `digits * 10 ^ exponent` of a grid lies in the interval. -/
def Interval.holds (i : Interval) (d : Decimal) : Bool :=
  let point := d.digits * Nat.pow 10 d.exponent.toNat * i.denominator
  let scale := Nat.pow 10 (-d.exponent).toNat
  if i.closed then i.low * scale ≤ point && point ≤ i.high * scale
  else i.low * scale < point && point < i.high * scale

/-- The point of the grid `10 ^ exponent` that lies in the interval, the nearer one of two. -/
def Interval.onGrid? (i : Interval) (exponent : Int) : Option Decimal :=
  let unit := Nat.pow 10 exponent.toNat * i.denominator
  let scaled := i.value * Nat.pow 10 (-exponent).toNat
  let below : Decimal := ⟨scaled / unit, exponent⟩
  let above : Decimal := ⟨scaled / unit + 1, exponent⟩
  match i.holds below, i.holds above with
  | true, true =>
    let rest := 2 * (scaled % unit)
    if rest < unit || (rest == unit && below.digits % 2 == 0) then some below else some above
  | true, false => some below
  | false, true => some above
  | false, false => none

/-- Moves the zeros at the end of the digits into the exponent. -/
def Decimal.dropZeros : Nat → Decimal → Decimal
  | 0, d => d
  | fuel + 1, d =>
    if d.digits != 0 && d.digits % 10 == 0 then dropZeros fuel ⟨d.digits / 10, d.exponent + 1⟩ else d

/-- The shortest decimal of a positive value. -/
def BinaryFraction.shortest (x : BinaryFraction) : Decimal :=
  let i := x.interval
  let found := (List.range 17).findSome? fun (n : Nat) => i.onGrid? (i.magnitude - (n + 1 : Int))
  (found.getD ⟨i.value, 0⟩).dropZeros 400

end ProjectCheck.Number
