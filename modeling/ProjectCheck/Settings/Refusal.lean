import ProjectCheck.Value.Display

/-!
# Refused settings

Why a value cannot be a setting, and where it stands.  `Reading` collects the faults of all parts
of a settings value in the order of the parts, so that none hides another.  Only the home directory
of an unknown user puts an end to the reading at once.
-/

namespace ProjectCheck.Settings

/-- Why a value cannot be a setting. -/
inductive Complaint where
  | notText
  /-- Bytes that are no text. -/
  | undecodable
  | notInteger
  | unreadableInteger
  | oversizedInteger
  | fractional
  | notFinite
  | notNumber
  | unreadableNumber
  | notTruth
  | unreadableTruth
  | notAmong (choices : List String)
  | notList
  | notSection (name : String)
  /-- A rule of the setting itself refuses the value. -/
  | against (rule : String)
  | notKnown
deriving Repr, DecidableEq

/-- Choices in quotes, with a comma or the word or between them. -/
def listed : List String → String
  | [] => ""
  | [only] => "'" ++ only ++ "'"
  | [a, b] => "'" ++ a ++ "' or '" ++ b ++ "'"
  | a :: rest => "'" ++ a ++ "', " ++ listed rest

namespace Complaint

/-- The short name of a complaint. -/
def name : Complaint → String
  | notText => "string_type"
  | undecodable => "string_unicode"
  | notInteger => "int_type"
  | unreadableInteger => "int_parsing"
  | oversizedInteger => "int_parsing_size"
  | fractional => "int_from_float"
  | notFinite => "finite_number"
  | notNumber => "float_type"
  | unreadableNumber => "float_parsing"
  | notTruth => "bool_type"
  | unreadableTruth => "bool_parsing"
  | notAmong _ => "literal_error"
  | notList => "list_type"
  | notSection _ => "model_type"
  | against _ => "value_error"
  | notKnown => "extra_forbidden"

/-- What a complaint says. -/
def message : Complaint → String
  | notText => "Input should be a valid string"
  | undecodable => "Input should be a valid string, unable to parse raw data as a unicode string"
  | notInteger => "Input should be a valid integer"
  | unreadableInteger => "Input should be a valid integer, unable to parse string as an integer"
  | oversizedInteger => "Unable to parse input string as an integer, exceeded maximum size"
  | fractional => "Input should be a valid integer, got a number with a fractional part"
  | notFinite => "Input should be a finite number"
  | notNumber => "Input should be a valid number"
  | unreadableNumber => "Input should be a valid number, unable to parse string as a number"
  | notTruth => "Input should be a valid boolean"
  | unreadableTruth => "Input should be a valid boolean, unable to interpret input"
  | notAmong choices => "Input should be " ++ listed choices
  | notList => "Input should be a valid list"
  | notSection section_ => "Input should be a valid dictionary or instance of " ++ section_
  | against rule => "Value error, " ++ rule
  | notKnown => "Extra inputs are not permitted"

end Complaint

/-- One step on the way to a setting. -/
inductive Step where
  | name (s : String)
  | index (n : Nat)
deriving Repr, DecidableEq

namespace Step

/-- A step as a text. -/
def text : Step → String
  | name s => s
  | index n => toString n

/-- A step as a value. -/
def toValue : Step → Value
  | name s => .text s
  | index n => .ofNat n

end Step

/-- A value that cannot be a setting, and the way to it. -/
structure SettingFault where
  path : List Step := []
  complaint : Complaint
  input : Value
deriving Repr, BEq

namespace SettingFault

/-- The way to a fault, with points between its steps. -/
def dotted (f : SettingFault) : String :=
  ".".intercalate (f.path.map Step.text)

/-- A fault as a record, without its input. -/
def toValue (f : SettingFault) : Value :=
  .record
    [("loc", .list (f.path.map Step.toValue)), ("type", .text f.complaint.name),
     ("msg", .text f.complaint.message)]

end SettingFault

/-- Why settings are refused. -/
inductive Refusal where
  | faults (first : SettingFault) (others : List SettingFault)
  /-- A path begins at the home directory of a user that does not exist. -/
  | unknownHome
deriving Repr, BEq

/-- What reading settings gives. -/
inductive Reading (α : Type) where
  | done (a : α)
  | refused (why : Refusal)
deriving Repr

namespace Refusal

/-- Two refusals in one. -/
def also : Refusal → Refusal → Refusal
  | faults first others, faults first' others' => faults first (others ++ first' :: others')
  | _, _ => unknownHome

/-- A refusal seen from one step further out. -/
def beyond (step : Step) : Refusal → Refusal
  | faults first others =>
    let further := fun (f : SettingFault) => { f with path := step :: f.path }
    faults (further first) (others.map further)
  | unknownHome => unknownHome

/-- All faults of a refusal. -/
def all : Refusal → List SettingFault
  | faults first others => first :: others
  | unknownHome => []

end Refusal

namespace Reading

variable {α β : Type}

/-- Refuses a value. -/
def refuse (complaint : Complaint) (input : Value) : Reading α :=
  refused (.faults { complaint, input } [])

/-- Applies a function to what is read. -/
def map (f : α → β) : Reading α → Reading β
  | done a => done (f a)
  | refused why => refused why

/-- Applies a function that is read to a value that is read, collecting the faults of both. -/
def apply (f : Reading (α → β)) (a : Reading α) : Reading β :=
  match f, a with
  | done f, done a => done (f a)
  | done _, refused why => refused why
  | refused why, done _ => refused why
  | refused why, refused why' => refused (why.also why')

instance : Applicative Reading where
  pure := done
  map := map
  seq f a := apply f (a ())

/-- Goes on with what is read, if nothing is refused. -/
def andThen (a : Reading α) (f : α → Reading β) : Reading β :=
  match a with
  | done a => f a
  | refused why => refused why

/-- A reading seen from one step further out. -/
def beyond (step : Step) : Reading α → Reading α
  | done a => done a
  | refused why => refused (why.beyond step)

/-- Reads the parts of a list, each at its index. -/
def parts (f : Value → Reading α) (index : Nat) : List Value → Reading (List α)
  | [] => done []
  | v :: rest => List.cons <$> (f v).beyond (.index index) <*> parts f (index + 1) rest

/-- Reads the member of a name, which has a default. -/
def field (members : List (String × Value)) (name : String) (default : α)
    (f : Value → Reading α) : Reading α :=
  match Table.get? name members with
  | none => done default
  | some v => (f v).beyond (.name name)

/-- The members of a mapping whose names are texts. -/
def namedEntries (entries : List (Value × Value)) : List (String × Value) :=
  entries.filterMap fun entry => entry.1.text?.map (·, entry.2)

/-- Reads a section from its members. -/
def group (name : String) (f : List (String × Value) → Reading α) : Value → Reading α
  | .record members => f members
  | .mapping entries => f (namedEntries entries)
  | v => refuse (.notSection name) v

end Reading

end ProjectCheck.Settings
