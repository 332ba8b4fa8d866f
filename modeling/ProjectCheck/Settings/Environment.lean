import ProjectCheck.Settings.Sections
import ProjectCheck.Text.Lowercase
import ProjectCheck.Value.JsonReader
import ProjectCheck.Value.Overlay

/-!
# Settings in the environment

A variable named `SANDSCAN__` and a section holds that whole section as JSON, and one whose name
goes on with `__` and a setting holds that setting alone, as a text; more steps lead deeper.  The
letter case of these names means nothing.  A setting of its own counts more than the section that
holds it too.

The places of log lines are a list and no text, so the variable of this setting holds JSON as well.
-/

namespace ProjectCheck.Settings

open ProjectCheck.Text

/-- The variables of an environment, in order. -/
abbrev Environment := List (String × String)

/-- What the names of all variables that hold settings begin with. -/
def variableLead : List Char :=
  "sandscan__".toList

/-- What separates the steps of a name. -/
def stepMark : List Char :=
  ['_', '_']

/-- The name of a variable in small letters. -/
def foldedName (name : String) : String :=
  String.ofList (lower name.toList)

/-- The variables under their names in small letters; the later of two with one name counts. -/
def foldedVariables (environment : Environment) : Table String String :=
  Table.ofPairs (environment.map fun entry => (foldedName entry.1, entry.2))

/-- The steps behind a section in the name of a variable. -/
def stepsWithin? (part name : String) : Option (List String) :=
  (afterPrefix? (variableLead ++ part.toList ++ stepMark) name.toList).map fun rest =>
    (splitOn stepMark rest).map String.ofList

/-! ## Settings of their own -/

/-- Sets what a way of names leads to.  Where something else than a record stands in the way, nothing
changes. -/
def putAt (value : Value) : List String → List (String × Value) → List (String × Value)
  | [], members => members
  | [last], members => Table.put last value members
  | name :: more, members =>
    match Table.get? name members with
    | none => Table.put name (.record (putAt value more [])) members
    | some (.record inner) => Table.put name (.record (putAt value more inner)) members
    | some _ => members

/-- Whether a setting is a list. -/
def isListSetting (part : String) (steps : List String) : Bool :=
  part == "logging" && steps == ["outputs"]

/-- What a variable says of a setting. -/
def settingOf (part : String) (steps : List String) (content : String) :
    Except Value.JsonFault Value :=
  if isListSetting part steps && !content.isEmpty then Value.readJson content.toList
  else .ok (.text content)

/-- The settings of a section that have variables of their own. -/
def ownSettings (part : String) : List (String × String) → List (String × Value) →
    Except Value.JsonFault (List (String × Value))
  | [], members => .ok members
  | (name, content) :: rest, members =>
    match stepsWithin? part name with
    | none => ownSettings part rest members
    | some steps => do
      let value ← settingOf part steps content
      ownSettings part rest (putAt value steps members)

/-! ## Sections -/

/-- The names of the settings of a section. -/
def settingNames (part : String) : List String :=
  match ({} : Settings).toValue.member? part with
  | some (.record members) => members.map (·.1)
  | _ => []

/-- The names of the variables that sections and settings have, as they are spelled in capitals. -/
def variableNames : List String :=
  Settings.sectionNames.flatMap fun part =>
    let name := "SANDSCAN__" ++ part.toUpper
    name :: (settingNames part).map fun setting => name ++ "__" ++ setting.toUpper

/-- The setting that a name means, whatever its letter case, or else the name. -/
def properName (part name : String) : String :=
  ((settingNames part).find? fun known => foldedName known == foldedName name).getD name

/-- A section whose settings have their proper names. -/
def withProperNames (part : String) : Value → Value
  | .record members =>
    .record (Table.ofPairs (members.map fun m => (properName part m.1, m.2)))
  | v => v

/-- What the variables say of a section; nothing if no variable speaks of it. -/
def sectionIn (bindings : Table String String) (part : String) :
    Except Value.JsonFault (Option Value) := do
  match Table.get? (String.ofList variableLead ++ part) bindings with
  | none =>
    let members ← ownSettings part bindings []
    return if members.isEmpty then none else some (withProperNames part (.record members))
  | some content =>
    match ← Value.readJson content.toList with
    | .null => return none
    | .record members =>
      let own ← ownSettings part bindings []
      return some (withProperNames part (.record (Value.overlayMembers members own)))
    | v => return some v

/-- The sections of which variables speak. -/
def sectionsIn (bindings : Table String String) :
    List String → Except Value.JsonFault (List (String × Value))
  | [] => .ok []
  | part :: rest => do
    let found ← sectionIn bindings part
    let others ← sectionsIn bindings rest
    return match found with
      | none => others
      | some v => (part, v) :: others

/-- What an environment says of the settings. -/
def environmentLayer (environment : Environment) : Except Value.JsonFault Value :=
  (sectionsIn (foldedVariables environment) Settings.sectionNames).map .record

end ProjectCheck.Settings
