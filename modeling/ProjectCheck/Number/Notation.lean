import ProjectCheck.Number.Shortest

/-!
# The text of floating-point numbers

A number is written with the fewest digits that identify it.  When the exponent of its leading
digit is at least -4 and below 16 it is written positionally, with a point and at least one digit
after it; otherwise with a signed exponent of at least two digits.  The sign of zero is kept.
-/

namespace ProjectCheck.Number

/-- The decimal digits of a number. -/
def decimalDigits (n : Nat) : List Char :=
  Nat.toDigits 10 n

/-- An exponent with its sign and at least two digits. -/
def exponentText (e : Int) : List Char :=
  let digits := decimalDigits e.natAbs
  (if e < 0 then '-' else '+') :: (if digits.length < 2 then '0' :: digits else digits)

/-- Digits with a point after the first of them, which stands for `10 ^ lead`. -/
def scientificText (digits : List Char) (lead : Int) : List Char :=
  match digits with
  | [] => []
  | [d] => d :: 'e' :: exponentText lead
  | d :: more => d :: '.' :: more ++ 'e' :: exponentText lead

/-- Digits written positionally, the first of them standing for `10 ^ lead`. -/
def positionalText (digits : List Char) (lead : Int) : List Char :=
  if lead < 0 then '0' :: '.' :: List.replicate (-lead - 1).toNat '0' ++ digits
  else
    let whole := lead.toNat + 1
    if digits.length ≤ whole then
      digits ++ List.replicate (whole - digits.length) '0' ++ ['.', '0']
    else digits.take whole ++ '.' :: digits.drop whole

/-- The text of a decimal. -/
def Decimal.text (d : Decimal) : List Char :=
  let digits := decimalDigits d.digits
  let lead := d.exponent + (digits.length : Int) - 1
  if -4 ≤ lead && lead < 16 then positionalText digits lead else scientificText digits lead

/-- The text of a finite number without its sign. -/
def sizeText (x : Float) : List Char :=
  let fraction := BinaryFraction.ofFloat x
  if fraction.significand == 0 then ['0', '.', '0'] else fraction.shortest.text

/-- The texts of what is no finite number. -/
structure SpecialTexts where
  notANumber : String
  infinite : String

/-- The text of a floating-point number. -/
def floatText (special : SpecialTexts) (x : Float) : String :=
  if x.isNaN then special.notANumber
  else
    let sign := if isNegative x then "-" else ""
    if x.isInf then sign ++ special.infinite else sign ++ String.ofList (sizeText x)

/-- The special texts outside of data formats. -/
def plainSpecials : SpecialTexts :=
  ⟨"nan", "inf"⟩

/-- The special texts inside JSON. -/
def jsonSpecials : SpecialTexts :=
  ⟨"NaN", "Infinity"⟩

/-!
## Decimals with a number of places

Floating-point numbers written with a fixed number of digits, rounded by their exact values; of two
decimals that are equally near, the even one is taken.  A number may be written with its places
behind the point, with one digit in front of the point and a power of ten, or in whichever of these
forms suits its size.
-/

/-- The integer that is nearest to a quotient; the even one of two that are equally near. -/
def roundedQuotient (numerator denominator : Nat) : Nat :=
  let q := numerator / denominator
  let rest := 2 * (numerator % denominator)
  if denominator < rest || (rest == denominator && q % 2 == 1) then q + 1 else q

/-- The size of a finite value as a quotient. -/
def exactQuotient (x : Float) : Nat × Nat :=
  let f := BinaryFraction.ofFloat x
  (f.significand * Nat.pow 2 f.exponent.toNat, Nat.pow 2 (-f.exponent).toNat)

/-- Digits with zeros in front, up to a width. -/
def paddedDigits (width n : Nat) : String :=
  let digits := toString n
  String.ofList (List.replicate (width - digits.length) '0') ++ digits

/-- Digits with a point in front of the last `places`. -/
def pointed (places n : Nat) : String :=
  if places = 0 then toString n
  else
    let digits := (paddedDigits (places + 1) n).toList
    let whole := digits.length - places
    String.ofList (digits.take whole ++ '.' :: digits.drop whole)

/-- The size of a finite value with places behind the point. -/
def fixedSize (places : Nat) (x : Float) : String :=
  let (numerator, denominator) := exactQuotient x
  pointed places (roundedQuotient (numerator * Nat.pow 10 places) denominator)

/-- The digits of the size of a finite value, `places` behind the first one, and the power of ten of
the first one. -/
def scientificDigits (places : Nat) (x : Float) : Nat × Int :=
  let (numerator, denominator) := exactQuotient x
  if numerator == 0 then (0, 0)
  else
    let power : Int :=
      if denominator ≤ numerator then digitCount (numerator / denominator) - 1
      else -(leadingZeros numerator denominator 400 : Int) - 1
    let shift : Int := places - power
    let digits := roundedQuotient (numerator * Nat.pow 10 shift.toNat)
      (denominator * Nat.pow 10 (-shift).toNat)
    if digits == Nat.pow 10 (places + 1) then (digits / 10, power + 1) else (digits, power)

/-- A power of ten behind its mark, with a sign and two digits at least. -/
def powerText (mark : Char) (power : Int) : String :=
  String.singleton mark ++ (if power < 0 then "-" else "+") ++ paddedDigits 2 power.natAbs

/-- The size of a finite value with one digit in front of the point and a power of ten. -/
def scientificSize (mark : Char) (places : Nat) (x : Float) : String :=
  let (digits, power) := scientificDigits places x
  pointed places digits ++ powerText mark power

/-- A decimal without the zeros at the end of its fraction. -/
def withoutFinalZeros (s : String) : String :=
  if s.toList.contains '.' then
    let short := (s.toList.reverse.dropWhile (· == '0')).reverse
    String.ofList (if short.getLast? == some '.' then short.dropLast else short)
  else s

/-- The size of a finite value with a number of digits that count, in the form that suits it. -/
def generalSize (mark : Char) (digits : Nat) (keepsZeros : Bool) (x : Float) : String :=
  let digits := max digits 1
  let (value, power) := scientificDigits (digits - 1) x
  let trimmed := fun (s : String) => if keepsZeros then s else withoutFinalZeros s
  if -4 ≤ power && power < digits then
    trimmed (fixedSize ((digits : Int) - 1 - power).toNat x)
  else trimmed (pointed (digits - 1) value) ++ powerText mark power

end ProjectCheck.Number
