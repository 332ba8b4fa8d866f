import ProjectCheck.Fault
import ProjectCheck.Settings.Environment
import ProjectCheck.Yaml.Document

/-!
# Layers of settings

Settings come in layers: the defaults, a file for all projects, a file named for this run, the
environment, and what the caller says.  Each layer covers what it mentions in the layers
below and nothing else, so one setting of a section says nothing about the others.

`load` reads the layers, lays them over one another and reads the settings from the result.  The
settings are then written out and read once more, which shows where a setting that was accepted is
no longer accepted as it stands.
-/

namespace ProjectCheck.Settings

/-- What a settings file holds. -/
inductive FileText where
  | missing
  | text (s : String)
  /-- Bytes that are no text. -/
  | undecodable
  /-- A directory stands where the file should be. -/
  | directory
deriving Repr, DecidableEq

/-- A settings file. -/
structure SettingsFile where
  path : String
  content : FileText
deriving Repr, DecidableEq

/-- Why settings cannot be loaded. -/
inductive LoadFailure where
  | fault (f : Fault)
  /-- A settings file is no text. -/
  | undecodableFile
  /-- A settings file is a directory. -/
  | directoryFile
  /-- A settings file or a variable says something that cannot be. -/
  | senseless (why : Yaml.Fault)
  /-- A variable of the environment should be JSON and is not. -/
  | undecodableVariable
  /-- Something that is no text stands where the name of a section should be. -/
  | unnamedSection
  /-- The settings that were accepted are not accepted as they stand. -/
  | refused (why : Refusal)
deriving Repr, BEq

/-- What is said of a settings file that is no YAML. -/
def notYaml : String :=
  "not a YAML document"

/-- What is said of a settings file that holds no mapping. -/
def notMapping : String :=
  "top-level value must be a mapping"

/-- Whether a value is a mapping. -/
def isMapping : Value → Bool
  | .record _ => true
  | .mapping _ => true
  | _ => false

/-- What a settings file says.  An empty value of any kind says nothing, and so does a file that does
not exist. -/
def fileLayer (file : SettingsFile) : Except LoadFailure Value :=
  match file.content with
  | .missing => .ok (.record [])
  | .undecodable => .error .undecodableFile
  | .directory => .error .directoryFile
  | .text s =>
    match Yaml.readYaml s with
    | .error .malformed => .error (.fault (.settingsSyntax (.text file.path) (.text notYaml)))
    | .error why => .error (.senseless why)
    | .ok v =>
      if !v.isSubstantial then .ok (.record [])
      else if isMapping v then .ok v
      else .error (.fault (.settingsSyntax (.text file.path) (.text notMapping)))

/-- What the settings files say; a file that is named for this run must exist. -/
def filesLayer (shared : SettingsFile) (named : Option SettingsFile) :
    Except LoadFailure Value := do
  let base ← fileLayer shared
  match named with
  | none => return base
  | some file =>
    if file.content = .missing then throw (.fault (.settingsMissing (.text file.path)))
    return base.overlay (← fileLayer file)

/-- Refuses the members that are no sections. -/
def onlySections (members : List (String × Value)) : Reading Unit :=
  match members.filter fun m => !Settings.sectionNames.contains m.1 with
  | [] => .done ()
  | first :: others =>
    let fault := fun (m : String × Value) =>
      ({ path := [.name m.1], complaint := .notKnown, input := m.2 } : SettingFault)
    .refused (.faults (fault first) (others.map fault))

/-- The settings that the members of all layers together make up. -/
def ofLayers (home : String) (members : List (String × Value)) : Reading Settings :=
  (fun settings _ => settings) <$> Settings.ofMembers home members <*> onlySections members

/-- The first fault of refused settings. -/
def refusalFailure : Refusal → LoadFailure
  | .faults first _ =>
    .fault (.settingsValue (.text first.dotted) first.input (.text first.complaint.message))
  | .unknownHome => .refused .unknownHome

/-- What a caller says, under the names of the sections.  A caller may spell a name in other letter
case; where several of its names mean one section, the proper name counts, or else the first. -/
def withSectionNames (own : List (String × Value)) : List (String × Value) :=
  let spelling := fun (part : String) =>
    if Table.has part own then some part
    else (own.find? fun m => foldedName m.1 == part).map (·.1)
  own.map fun m =>
    match Settings.sectionNames.find? fun part => spelling part == some m.1 with
    | some part => (part, m.2)
    | none => m

/-- All layers above the defaults, the lowest first. -/
structure Layers where
  shared : SettingsFile
  named : Option SettingsFile := none
  environment : Environment := []
  own : List (String × Value) := []
deriving Repr

namespace Layers

/-- All that the layers say. -/
def merged (layers : Layers) : Except LoadFailure Value := do
  let files ← filesLayer layers.shared layers.named
  match environmentLayer layers.environment with
  | .error .malformed => throw .undecodableVariable
  | .error .tooDeep => throw (.senseless .tooDeep)
  | .ok environment =>
    return files.overlay (environment.overlay (.record (withSectionNames layers.own)))

/-- Reads the settings from the layers, with a home directory. -/
def load (home : String) (layers : Layers) : Except LoadFailure Settings := do
  match ← layers.merged with
  | .record members =>
    match ofLayers home members with
    | .refused why => throw (refusalFailure why)
    | .done settings =>
      match Settings.read home settings.toValue with
      | .refused why => throw (.refused why)
      | .done again => return again
  | _ => throw .unnamedSection

end Layers

end ProjectCheck.Settings
