import ProjectCheck.Calendar
import ProjectCheck.Number.Reading
import ProjectCheck.Table

/-!
# Dynamic values

The values that collaborators hand over: what a data file holds, and what a sandbox returns.  A
`record` has members under names and can be looked into by name; a `mapping` is one whose names are
not all texts; an `object` has attributes, and is otherwise opaque.  Lists and tuples differ only in how
they are shown.
-/

namespace ProjectCheck

/-- A dynamic value. -/
inductive Value where
  | null
  | bool (b : Bool)
  | int (n : Int)
  | float (x : Float)
  | text (s : String)
  | bytes (bs : List UInt8)
  | moment (m : Moment)
  | list (items : List Value)
  | tuple (items : List Value)
  | record (members : List (String × Value))
  | mapping (entries : List (Value × Value))
  | object (className : String) (attributes : List (String × Value))
deriving Repr, Inhabited

namespace Value

open ProjectCheck.Number

/-! ## Equality -/

mutual

/-- Whether two values are of one kind and equal in all their parts. -/
def beq : Value → Value → Bool
  | null, null => true
  | bool a, bool b => a == b
  | int a, int b => a == b
  | float a, float b => a == b
  | text a, text b => a == b
  | bytes as, bytes bs => as == bs
  | moment a, moment b => a == b
  | list as, list bs => beqItems as bs
  | tuple as, tuple bs => beqItems as bs
  | record as, record bs => beqMembers as bs
  | mapping as, mapping bs => beqEntries as bs
  | object a as, object b bs => a == b && beqMembers as bs
  | _, _ => false

/-- Whether two lists hold equal values. -/
def beqItems : List Value → List Value → Bool
  | [], [] => true
  | a :: as, b :: bs => a.beq b && beqItems as bs
  | _, _ => false

/-- Whether two lists hold equal members. -/
def beqMembers : List (String × Value) → List (String × Value) → Bool
  | [], [] => true
  | (name, a) :: as, (other, b) :: bs => name == other && a.beq b && beqMembers as bs
  | _, _ => false

/-- Whether two lists hold equal entries. -/
def beqEntries : List (Value × Value) → List (Value × Value) → Bool
  | [], [] => true
  | (key, a) :: as, (other, b) :: bs => key.beq other && a.beq b && beqEntries as bs
  | _, _ => false

end

instance : BEq Value :=
  ⟨beq⟩

/-! ## Kinds -/

/-- The null value for nothing. -/
def ofOption {α : Type} (f : α → Value) : Option α → Value
  | none => null
  | some a => f a

/-- A natural number as a value. -/
def ofNat (n : Nat) : Value :=
  int n

/-- The name of the kind of a value. -/
def kindName : Value → String
  | null => "NoneType"
  | bool _ => "bool"
  | int _ => "int"
  | float _ => "float"
  | text _ => "str"
  | bytes _ => "bytes"
  | moment m => if m.clock.isSome then "datetime" else "date"
  | list _ => "list"
  | tuple _ => "tuple"
  | record _ => "dict"
  | mapping _ => "dict"
  | object .. => "object"

/-- Whether a value is there and not empty, zero or false. -/
def isSubstantial : Value → Bool
  | null => false
  | bool b => b
  | int n => n != 0
  | float x => !(x == 0.0)
  | text s => !s.isEmpty
  | bytes bs => !bs.isEmpty
  | moment _ => true
  | list items => !items.isEmpty
  | tuple items => !items.isEmpty
  | record members => !members.isEmpty
  | mapping entries => !entries.isEmpty
  | object .. => true

/-- Truth values and whole floating-point numbers as the integers that they equal. -/
def canonical : Value → Value
  | bool b => int (if b then 1 else 0)
  | float x =>
    match integralFloat? x with
    | some n => int n
    | none => float x
  | v => v

/-- Whether two scalars are equal, numbers being compared by their value and moments by their
time. -/
def sameScalar : Value → Value → Bool
  | moment a, moment b => a.isSame b
  | a, b => a.canonical == b.canonical

/-- Whether a value can serve as a key: it is no container that may change. -/
def isKey : Value → Bool
  | list _ => false
  | record _ => false
  | mapping _ => false
  | _ => true

/-- The member of a record under a name. -/
def member? (name : String) : Value → Option Value
  | record members => Table.get? name members
  | _ => none

/-- The text that a value is. -/
def text? : Value → Option String
  | text s => some s
  | _ => none

/-- The integer that a value is. -/
def int? : Value → Option Int
  | int n => some n
  | _ => none

end Value

end ProjectCheck
