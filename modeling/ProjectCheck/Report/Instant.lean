import ProjectCheck.Calendar
import ProjectCheck.Value.Basic

/-!
# Instants

A point of time in coordinated universal time, and its written form.  `Instant.ofValues` makes one
of the values of its fields: year, month and day, and then perhaps hour, minute, second and
microsecond.
-/

namespace ProjectCheck

/-- A point of time in coordinated universal time. -/
structure Instant where
  date : Date
  time : Time := {}
deriving Repr, DecidableEq

/-- Why values are not the fields of an instant. -/
inductive InstantFault where
  /-- A field is missing, is no integer, or is one too many. -/
  | wrongFields
  /-- A field has more than 32 bits. -/
  | tooGreat
  /-- There is no such point of time. -/
  | outOfRange
deriving Repr, DecidableEq

namespace Instant

/-- The written form of an instant. -/
def iso (t : Instant) : String :=
  t.date.text ++ "T" ++ t.time.text ++ "+00:00"

/-- The least integer that has more than 32 bits. -/
def fieldCeiling : Int :=
  Nat.pow 2 31

/-- The integer of a field; truth values are one and zero. -/
def fieldOf : Value → Except InstantFault Int
  | .int n => if -fieldCeiling ≤ n && n < fieldCeiling then .ok n else .error .tooGreat
  | .bool b => .ok (if b then 1 else 0)
  | _ => .error .wrongFields

/-- The instant of fields. -/
def ofFields : List Int → Except InstantFault Instant
  | year :: month :: day :: time =>
    let part := fun i => time.getD i 0
    let t : Instant :=
      { date := ⟨year.toNat, month.toNat, day.toNat⟩
        time := ⟨(part 0).toNat, (part 1).toNat, (part 2).toNat, (part 3).toNat⟩ }
    if time.all (0 ≤ ·) && t.date.isValid && t.time.isValid then .ok t else .error .outOfRange
  | _ => .error .wrongFields

/-- The instant that the values of its fields give. -/
def ofValues (fields : List Value) : Except InstantFault Instant := do
  let numbers ← (fields.take 7).mapM fieldOf
  if fields.length < 3 || 7 < fields.length then throw .wrongFields
  ofFields numbers

end Instant

end ProjectCheck
