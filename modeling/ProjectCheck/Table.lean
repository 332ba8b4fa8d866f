/-!
# Ordered tables

A table is a list of keys with their values, in the order in which the keys first arrived.  A
later value for a present key takes the place of the earlier one and moves nothing.
-/

namespace ProjectCheck

/-- Keys with their values, in order of arrival. -/
abbrev Table (κ ν : Type) := List (κ × ν)

namespace Table

variable {κ ν : Type} [DecidableEq κ]

/-- The value of a key. -/
def get? (key : κ) : Table κ ν → Option ν
  | [] => none
  | entry :: rest => if entry.1 = key then some entry.2 else get? key rest

/-- Whether a key is present. -/
def has (key : κ) (table : Table κ ν) : Bool :=
  (get? key table).isSome

/-- Gives a key a value: in its place if it is present, at the end otherwise. -/
def put (key : κ) (value : ν) : Table κ ν → Table κ ν
  | [] => [(key, value)]
  | entry :: rest =>
    if entry.1 = key then (key, value) :: rest else entry :: put key value rest

/-- Removes a key. -/
def erase (key : κ) (table : Table κ ν) : Table κ ν :=
  table.filter fun entry => entry.1 ≠ key

/-- The table that arises when pairs arrive one by one. -/
def ofPairs (pairs : List (κ × ν)) : Table κ ν :=
  pairs.foldl (fun table entry => put entry.1 entry.2 table) []

end Table

end ProjectCheck
