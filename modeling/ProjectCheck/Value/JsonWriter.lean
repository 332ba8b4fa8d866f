import ProjectCheck.Number.Notation
import ProjectCheck.Text.Quoted
import ProjectCheck.Value.Basic

/-!
# Writing JSON

`jsonText` writes a value on one line, with a blank after every comma and colon and every character
beyond ASCII escaped; `jsonLines` writes it with one item a line, indented by two blanks a level.
Bytes, moments and objects have no JSON form and are written as null.
-/

namespace ProjectCheck.Value

open ProjectCheck.Number ProjectCheck.Text

/-- A code unit as an escape. -/
def escapedUnit (n : Nat) : List Char :=
  '\\' :: 'u' :: hexDigits 4 n

/-- One character inside a JSON string. -/
def jsonChar (c : Char) : List Char :=
  let n := c.toNat
  if c == '"' then ['\\', '"']
  else if c == '\\' then ['\\', '\\']
  else if c == '\n' then ['\\', 'n']
  else if c == '\r' then ['\\', 'r']
  else if c == '\t' then ['\\', 't']
  else if n == 0x08 then ['\\', 'b']
  else if n == 0x0C then ['\\', 'f']
  else if 0x20 ≤ n && n < 0x7F then [c]
  else if n < 0x10000 then escapedUnit n
  else escapedUnit (0xD800 + (n - 0x10000) / 0x400) ++ escapedUnit (0xDC00 + (n - 0x10000) % 0x400)

/-- A JSON string. -/
def jsonString (s : String) : String :=
  String.ofList ('"' :: s.toList.flatMap jsonChar ++ ['"'])

/-- A value without parts. -/
def jsonScalar : Value → String
  | bool b => if b then "true" else "false"
  | int n => toString n
  | float x => floatText jsonSpecials x
  | text s => jsonString s
  | _ => "null"

mutual

/-- A value as JSON on one line. -/
def jsonText : Value → String
  | list items => "[" ++ jsonItems items ++ "]"
  | tuple items => "[" ++ jsonItems items ++ "]"
  | record members => "\x7b" ++ jsonMembers members ++ "\x7d"
  | v => jsonScalar v

/-- Items with commas between them. -/
def jsonItems : List Value → String
  | [] => ""
  | [item] => jsonText item
  | item :: rest => jsonText item ++ ", " ++ jsonItems rest

/-- Members with commas between them. -/
def jsonMembers : List (String × Value) → String
  | [] => ""
  | [(name, value)] => jsonString name ++ ": " ++ jsonText value
  | (name, value) :: rest =>
    jsonString name ++ ": " ++ jsonText value ++ ", " ++ jsonMembers rest

end

/-- A line break and the indentation of a level. -/
def jsonBreak (level : Nat) : String :=
  "\n" ++ String.ofList (List.replicate (2 * level) ' ')

mutual

/-- A value as indented JSON, at a level of indentation. -/
def jsonLines (level : Nat) : Value → String
  | list [] => "[]"
  | tuple [] => "[]"
  | record [] => "\x7b\x7d"
  | list items => "[" ++ jsonItemLines (level + 1) items ++ jsonBreak level ++ "]"
  | tuple items => "[" ++ jsonItemLines (level + 1) items ++ jsonBreak level ++ "]"
  | record members =>
    "\x7b" ++ jsonMemberLines (level + 1) members ++ jsonBreak level ++ "\x7d"
  | v => jsonScalar v

/-- Items on lines of their own. -/
def jsonItemLines (level : Nat) : List Value → String
  | [] => ""
  | [item] => jsonBreak level ++ jsonLines level item
  | item :: rest => jsonBreak level ++ jsonLines level item ++ "," ++ jsonItemLines level rest

/-- Members on lines of their own. -/
def jsonMemberLines (level : Nat) : List (String × Value) → String
  | [] => ""
  | [(name, value)] => jsonBreak level ++ jsonString name ++ ": " ++ jsonLines level value
  | (name, value) :: rest =>
    jsonBreak level ++ jsonString name ++ ": " ++ jsonLines level value ++ "," ++
      jsonMemberLines level rest

end

end ProjectCheck.Value
