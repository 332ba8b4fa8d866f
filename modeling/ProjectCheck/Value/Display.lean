import ProjectCheck.Number.Notation
import ProjectCheck.Text.Utf8
import ProjectCheck.Value.Basic

/-!
# Showing values

How a value is shown inside a message.  `Value.shown` quotes texts, so that different values look
different; `Value.plain` writes a text as it is.
-/

namespace ProjectCheck.Value

open ProjectCheck.Number ProjectCheck.Text

mutual

/-- A value shown with its texts quoted. -/
def shown : Value → String
  | null => "None"
  | bool b => if b then "True" else "False"
  | int n => toString n
  | float x => floatText plainSpecials x
  | text s => quotedString s
  | bytes bs => String.ofList (quotedBytes bs)
  | moment m => m.shown
  | list items => "[" ++ shownItems items ++ "]"
  | tuple [item] => "(" ++ shown item ++ ",)"
  | tuple items => "(" ++ shownItems items ++ ")"
  | record members => "\x7b" ++ shownMembers members ++ "\x7d"
  | mapping entries => "\x7b" ++ shownEntries entries ++ "\x7d"
  | object className attributes => className ++ "(" ++ shownAttributes attributes ++ ")"

/-- Values shown with commas between them. -/
def shownItems : List Value → String
  | [] => ""
  | [item] => shown item
  | item :: rest => shown item ++ ", " ++ shownItems rest

/-- Members shown with their names quoted. -/
def shownMembers : List (String × Value) → String
  | [] => ""
  | [(name, value)] => quotedString name ++ ": " ++ shown value
  | (name, value) :: rest => quotedString name ++ ": " ++ shown value ++ ", " ++ shownMembers rest

/-- Entries of a mapping shown with colons. -/
def shownEntries : List (Value × Value) → String
  | [] => ""
  | [(key, value)] => shown key ++ ": " ++ shown value
  | (key, value) :: rest => shown key ++ ": " ++ shown value ++ ", " ++ shownEntries rest

/-- Attributes shown as assignments. -/
def shownAttributes : List (String × Value) → String
  | [] => ""
  | [(name, value)] => name ++ "=" ++ shown value
  | (name, value) :: rest => name ++ "=" ++ shown value ++ ", " ++ shownAttributes rest

end

/-- A value shown with a text as it is, and a moment in writing. -/
def plain : Value → String
  | text s => s
  | moment m => m.text
  | v => shown v

end ProjectCheck.Value
