import ProjectCheck.Number.Reading

/-!
# Quantities

A quantity is an integer of any size or a floating-point number.  Integers are added and subtracted
exactly; as soon as a floating-point number takes part, the other quantity becomes one too.
Quantities of both kinds are compared by their exact values, which rounding would blur.
-/

namespace ProjectCheck

open ProjectCheck.Number

/-- An integer of any size, or a floating-point number. -/
inductive Quantity where
  | whole (n : Int)
  | real (x : Float)
deriving Repr, Inhabited

namespace Quantity

/-- A quantity as a floating-point number. -/
def toFloat : Quantity → Float
  | whole n => floatOfInt n
  | real x => x

/-- The sum of two quantities. -/
def sum : Quantity → Quantity → Quantity
  | whole a, whole b => whole (a + b)
  | a, b => real (a.toFloat + b.toFloat)

/-- The difference of two quantities. -/
def difference : Quantity → Quantity → Quantity
  | whole a, whole b => whole (a - b)
  | a, b => real (a.toFloat - b.toFloat)

instance : Add Quantity := ⟨sum⟩

instance : Sub Quantity := ⟨difference⟩

/-- The greatest integer that is no greater than a finite number. -/
def floor? (x : Float) : Option Int :=
  (truncateFloat? x).map fun n => if floatOfInt n ≤ x then n else n - 1

/-- Whether an integer is less than a floating-point number. -/
def isBelowFloat (n : Int) (x : Float) : Bool :=
  match floor? x with
  | some m => if n == m then !(integralFloat? x).isSome else n < m
  | none => x > 0.0

/-- Whether an integer is equal to a floating-point number. -/
def equalsFloat (n : Int) (x : Float) : Bool :=
  integralFloat? x == some n

/-- Whether two quantities have the same value. -/
def isSame : Quantity → Quantity → Bool
  | whole a, whole b => a == b
  | real x, real y => x == y
  | whole n, real x => equalsFloat n x
  | real x, whole n => equalsFloat n x

/-- Whether a quantity is less than another. -/
def isBelow : Quantity → Quantity → Bool
  | whole a, whole b => a < b
  | real x, real y => x < y
  | whole n, real x => isBelowFloat n x
  | real x, whole n => !x.isNaN && !isBelowFloat n x && !equalsFloat n x

/-- Whether a quantity is no greater than another. -/
def isAtMost (a b : Quantity) : Bool :=
  a.isBelow b || a.isSame b

instance : LE Quantity := ⟨fun a b => a.isAtMost b = true⟩

instance : DecidableLE Quantity := fun a b => inferInstanceAs (Decidable (a.isAtMost b = true))

end Quantity

end ProjectCheck
