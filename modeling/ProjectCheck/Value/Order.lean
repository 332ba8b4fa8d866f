import ProjectCheck.Number.Quantity
import ProjectCheck.Value.Basic

/-!
# Order of values

Numbers are ordered by their values, texts by their characters, and lists by the first items that
differ.  Values of different kinds have no order, so sorting may fail.

`sortedBy?` sorts by an order that may refuse to compare two things.  It keeps equal things in the
order in which they came, and it refuses a list only if it has to compare two things that cannot be
compared: it takes over a run at the front that is in order, or strictly in reverse order, and puts
each further thing in its place, which it looks for by halves.
-/

namespace ProjectCheck

/-- The quantity that a value is; truth values are one and zero. -/
def Value.quantity? : Value → Option Quantity
  | .int n => some (.whole n)
  | .bool b => some (.whole (if b then 1 else 0))
  | .float x => some (.real x)
  | _ => none

namespace Value

mutual

/-- Whether a value comes before another; nothing if they cannot be compared. -/
def isBelow? : Value → Value → Option Bool
  | text a, text b => some (a < b)
  | bytes a, bytes b => some (compare a b).isLT
  | list as, list bs => areBelow? as bs
  | tuple as, tuple bs => areBelow? as bs
  | a, b =>
    match a.quantity?, b.quantity? with
    | some x, some y => some (x.isBelow y)
    | _, _ => none

/-- Whether items come before others. -/
def areBelow? : List Value → List Value → Option Bool
  | [], bs => some !bs.isEmpty
  | _, [] => some false
  | a :: as, b :: bs => if a.sameScalar b then areBelow? as bs else isBelow? a b

end

end Value

/-! ## Sorting -/

variable {α : Type}

/-- How many things at the front are each before the one that comes ahead of it (`down`), or each
not, after the thing `last`. -/
def runLength? (below? : α → α → Option Bool) (down : Bool) (last : α) : List α → Option Nat
  | [] => some 0
  | a :: rest => do
    if (← below? a last) == down then return (← runLength? below? down a rest) + 1 else return 0

/-- The things that are in order at the front, and the others. -/
def takeRun? (below? : α → α → Option Bool) : List α → Option (List α × List α)
  | a :: b :: rest => do
    let down ← below? b a
    let n ← runLength? below? down b rest
    let run := (a :: b :: rest).take (n + 2)
    return (if down then run.reverse else run, rest.drop n)
  | few => some (few, [])

/-- Where a thing belongs among things in order, between two positions. -/
def placeFor? (below? : α → α → Option Bool) (a : α) (sorted : Array α) :
    (fuel low high : Nat) → Option Nat
  | 0, low, _ => some low
  | fuel + 1, low, high =>
    if low ≥ high then some low
    else
      let middle := (low + high) / 2
      match sorted[middle]? with
      | none => some low
      | some other => do
        if ← below? a other then placeFor? below? a sorted fuel low middle
        else placeFor? below? a sorted fuel (middle + 1) high

/-- Things in order, with others put in their places. -/
def putInOrder? (below? : α → α → Option Bool) (sorted : List α) : List α → Option (List α)
  | [] => some sorted
  | a :: rest => do
    let i ← placeFor? below? a sorted.toArray sorted.length 0 sorted.length
    putInOrder? below? (sorted.take i ++ a :: sorted.drop i) rest

/-- Things in order; nothing if two of them cannot be compared. -/
def sortedBy? (below? : α → α → Option Bool) (things : List α) : Option (List α) := do
  let (run, others) ← takeRun? below? things
  putInOrder? below? run others

end ProjectCheck
