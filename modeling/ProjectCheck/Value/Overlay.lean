import ProjectCheck.Value.Basic

/-!
# Laying values over values

`overlay base top` is `base` with all that `top` says in its place: mappings are laid over mappings
name by name, at any depth, and any other value covers what was there.  Names of the base keep their
places, and new names come behind them.
-/

namespace ProjectCheck.Value

/-! ## Entries of mappings -/

/-- The value of a key that is equal to a given one. -/
def entry? (key : Value) : List (Value × Value) → Option Value
  | [] => none
  | entry :: rest => if entry.1.sameScalar key then some entry.2 else entry? key rest

/-- Gives a key a value: in its place if an equal key is present, at the end otherwise. -/
def putEntry (key value : Value) : List (Value × Value) → List (Value × Value)
  | [] => [(key, value)]
  | entry :: rest =>
    if entry.1.sameScalar key then (entry.1, value) :: rest else entry :: putEntry key value rest

/-- The entries of a mapping whose keys are its names. -/
def namedEntries (members : List (String × Value)) : List (Value × Value) :=
  members.map fun m => (text m.1, m.2)

/-- The entries of a mapping. -/
def entries? : Value → Option (List (Value × Value))
  | record members => some (namedEntries members)
  | mapping entries => some entries
  | _ => none

/-- The members that some entries are, if all keys are texts. -/
def membersOf? : List (Value × Value) → Option (List (String × Value))
  | [] => some []
  | (text name, value) :: rest => (membersOf? rest).map ((name, value) :: ·)
  | _ :: _ => none

/-- The mapping of some entries. -/
def ofEntries (entries : List (Value × Value)) : Value :=
  match membersOf? entries with
  | some members => record members
  | none => mapping entries

/-- The mapping that arises when entries arrive one by one. -/
def gathered (entries : List (Value × Value)) : Value :=
  ofEntries (entries.foldl (fun kept entry => putEntry entry.1 entry.2 kept) [])

/-! ## Laying over -/

mutual

/-- A value with another laid over it. -/
def overlay (base : Value) : Value → Value
  | record members =>
    match base with
    | record own => record (overlayMembers own members)
    | mapping own => ofEntries (overlayNamed own members)
    | _ => record members
  | mapping entries =>
    match base.entries? with
    | some own => ofEntries (overlayEntries own entries)
    | none => mapping entries
  | null => null
  | bool b => bool b
  | int n => int n
  | float x => float x
  | text s => text s
  | bytes bs => bytes bs
  | moment m => moment m
  | list items => list items
  | tuple items => tuple items
  | object className attributes => object className attributes

/-- Members with others laid over them. -/
def overlayMembers (own : List (String × Value)) :
    List (String × Value) → List (String × Value)
  | [] => own
  | (name, value) :: rest =>
    let covered := match Table.get? name own with
      | some base => overlay base value
      | none => value
    overlayMembers (Table.put name covered own) rest

/-- Entries with members laid over them. -/
def overlayNamed (own : List (Value × Value)) :
    List (String × Value) → List (Value × Value)
  | [] => own
  | (name, value) :: rest =>
    let covered := match entry? (text name) own with
      | some base => overlay base value
      | none => value
    overlayNamed (putEntry (text name) covered own) rest

/-- Entries with others laid over them. -/
def overlayEntries (own : List (Value × Value)) :
    List (Value × Value) → List (Value × Value)
  | [] => own
  | (key, value) :: rest =>
    let covered := match entry? key own with
      | some base => overlay base value
      | none => value
    overlayEntries (putEntry key covered own) rest

end

end ProjectCheck.Value
