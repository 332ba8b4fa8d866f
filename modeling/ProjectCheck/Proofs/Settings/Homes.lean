import Mathlib.Tactic.Common
import ProjectCheck.Settings.Sections

/-!
# Settings that name an unknown home

Reading settings collects the faults of all parts, but for one: the home directory of a user that
does not exist puts an end to it.  That happens exactly if a destination of log lines begins there
(`ofMembers_eq_unknownHome_iff`).

The statement follows the form of the readers.  A reading in parts ends at an unknown home if one of
the parts does (`Reading.seq_eq_unknownHome_iff` and its companions), and of all readers of single
settings only that of destinations asks for a home.
-/

namespace ProjectCheck

open ProjectCheck.Settings

/-! ## Readings in parts -/

namespace Settings.Reading

variable {α β : Type}

@[simp] lemma map_eq_unknownHome_iff {f : α → β} {r : Reading α} :
    f <$> r = refused .unknownHome ↔ r = refused .unknownHome := by
  cases r <;> simp [Functor.map, map]

/-- Two readings end at an unknown home if one of them does; other faults are only collected. -/
@[simp] lemma seq_eq_unknownHome_iff {f : Reading (α → β)} {r : Reading α} :
    f <*> r = refused .unknownHome ↔ f = refused .unknownHome ∨ r = refused .unknownHome := by
  rcases f with _ | (_ | _) <;> rcases r with _ | (_ | _) <;> simp [Seq.seq, apply, Refusal.also]

@[simp] lemma beyond_eq_unknownHome_iff {step : Step} {r : Reading α} :
    r.beyond step = refused .unknownHome ↔ r = refused .unknownHome := by
  rcases r with _ | (_ | _) <;> simp [beyond, Refusal.beyond]

@[simp] lemma andThen_eq_unknownHome_iff {r : Reading α} {f : α → Reading β} :
    r.andThen f = refused .unknownHome ↔
      r = refused .unknownHome ∨ ∃ a, r = done a ∧ f a = refused .unknownHome := by
  cases r <;> simp [andThen]

@[simp] lemma field_eq_unknownHome_iff {members : List (String × Value)} {name : String}
    {default : α} {f : Value → Reading α} :
    field members name default f = refused .unknownHome ↔
      ∃ v, Table.get? name members = some v ∧ f v = refused .unknownHome := by
  unfold field
  split <;> simp_all [beyond_eq_unknownHome_iff]

@[simp] lemma parts_eq_unknownHome_iff {f : Value → Reading α} {index : Nat} {items : List Value} :
    parts f index items = refused .unknownHome ↔ ∃ v ∈ items, f v = refused .unknownHome := by
  induction items generalizing index with
  | nil => simp [parts]
  | cons v rest ih => simp [parts, ih]

/-- The members that a section is read from. -/
def membersOf? : Value → Option (List (String × Value))
  | .record members => some members
  | .mapping entries => some (namedEntries entries)
  | _ => none

@[simp] lemma group_eq_unknownHome_iff {name : String} {f : List (String × Value) → Reading α}
    {v : Value} :
    group name f v = refused .unknownHome ↔
      ∃ members, membersOf? v = some members ∧ f members = refused .unknownHome := by
  cases v <;> simp [group, membersOf?, refuse]

end Settings.Reading

namespace Settings

open Reading

/-! ## Readers that ask for no home -/

section

variable (v : Value)

@[simp] lemma refuse_ne_unknownHome {α : Type} (complaint : Complaint) :
    (refuse complaint v : Reading α) ≠ .refused .unknownHome := by
  simp [refuse]

@[simp] lemma readText_ne_unknownHome : readText v ≠ .refused .unknownHome := by
  unfold readText
  repeat' split
  all_goals simp

@[simp] lemma readOptionalText_ne_unknownHome : readOptionalText v ≠ .refused .unknownHome := by
  unfold readOptionalText
  split <;> simp

@[simp] lemma readChoice_ne_unknownHome {α : Type} (choices : List (String × α)) :
    readChoice choices v ≠ .refused .unknownHome := by
  unfold readChoice
  split <;> simp

@[simp] lemma readOptionalChoice_ne_unknownHome {α : Type} (choices : List (String × α)) :
    readOptionalChoice choices v ≠ .refused .unknownHome := by
  unfold readOptionalChoice
  split <;> simp

@[simp] lemma readSpelledInteger_ne_unknownHome (s : String) :
    readSpelledInteger v s ≠ .refused .unknownHome := by
  unfold readSpelledInteger
  dsimp only
  repeat' split
  all_goals simp

@[simp] lemma readIntegral_ne_unknownHome (x : Float) :
    readIntegral v x ≠ .refused .unknownHome := by
  unfold readIntegral
  repeat' split
  all_goals simp

@[simp] lemma readInteger_ne_unknownHome : readInteger v ≠ .refused .unknownHome := by
  unfold readInteger
  repeat' split
  all_goals simp

@[simp] lemma readSpelledNumber_ne_unknownHome (s : String) :
    readSpelledNumber v s ≠ .refused .unknownHome := by
  unfold readSpelledNumber
  repeat' split
  all_goals simp

@[simp] lemma readNumber_ne_unknownHome : readNumber v ≠ .refused .unknownHome := by
  unfold readNumber
  dsimp only
  repeat' split
  all_goals simp

@[simp] lemma readTtl_ne_unknownHome : ResolverSettings.readTtl v ≠ .refused .unknownHome := by
  simp only [ResolverSettings.readTtl, Ne, andThen_eq_unknownHome_iff, readNumber_ne_unknownHome,
    false_or, not_exists, not_and]
  intro x _
  split <;> simp

@[simp] lemma readMaxFiles_ne_unknownHome :
    ScannerSettings.readMaxFiles v ≠ .refused .unknownHome := by
  simp only [ScannerSettings.readMaxFiles, Ne, andThen_eq_unknownHome_iff,
    readInteger_ne_unknownHome, false_or, not_exists, not_and]
  intro n _
  split <;> simp

@[simp] lemma readSourceRoot_ne_unknownHome :
    ScannerSettings.readSourceRoot v ≠ .refused .unknownHome := by
  simp only [ScannerSettings.readSourceRoot, Ne, andThen_eq_unknownHome_iff,
    readText_ne_unknownHome, false_or, not_exists, not_and]
  intro s _
  split <;> simp

@[simp] lemma truthOfInt_ne_unknownHome (n : Int) : truthOfInt v n ≠ .refused .unknownHome := by
  unfold truthOfInt
  repeat' split
  all_goals simp

@[simp] lemma readSpelledTruth_ne_unknownHome (s : String) :
    readSpelledTruth v s ≠ .refused .unknownHome := by
  unfold readSpelledTruth
  split <;> simp

@[simp] lemma readTruth_ne_unknownHome : readTruth v ≠ .refused .unknownHome := by
  unfold readTruth
  repeat' split
  all_goals simp

@[simp] lemma readResolver_ne_unknownHome : ResolverSettings.read v ≠ .refused .unknownHome := by
  simp [ResolverSettings.read]

@[simp] lemma readScanner_ne_unknownHome : ScannerSettings.read v ≠ .refused .unknownHome := by
  simp [ScannerSettings.read]

@[simp] lemma readCompiler_ne_unknownHome : CompilerSettings.read v ≠ .refused .unknownHome := by
  simp [CompilerSettings.read]

@[simp] lemma readDetectors_ne_unknownHome : DetectorSettings.read v ≠ .refused .unknownHome := by
  simp [DetectorSettings.read]

end

/-! ## Destinations -/

/-- The items of a list. -/
def itemsOf : Value → List Value
  | .list items => items
  | .tuple items => items
  | _ => []

/-- What stands in a value under a name. -/
def within? (name : String) (v : Value) : Option Value :=
  (membersOf? v).bind (Table.get? name)

lemma exists_within?_iff {name : String} {v : Value} {P : Value → Prop} :
    (∃ members, membersOf? v = some members ∧ ∃ w, Table.get? name members = some w ∧ P w) ↔
      ∃ w, within? name v = some w ∧ P w := by
  constructor
  · rintro ⟨members, hmembers, w, hw, h⟩
    exact ⟨w, by simp [within?, hmembers, hw], h⟩
  · rintro ⟨w, hw, h⟩
    obtain ⟨members, hmembers, hw⟩ := Option.bind_eq_some_iff.mp hw
    exact ⟨members, hmembers, w, hw, h⟩

/-- A destination is no stream and begins at the home directory of a user that does not exist. -/
def BeginsAtUnknownHome (home : String) (destination : Value) : Prop :=
  ∃ path, readText destination = .done path ∧ path ∉ streamNames ∧
    expandHome? home path.toList = none

@[simp] lemma readDestination_eq_unknownHome_iff {home s : String} {v : Value} :
    readDestination home v s = .refused .unknownHome ↔
      s ∉ streamNames ∧ expandHome? home s.toList = none := by
  unfold readDestination
  split
  · simp_all
  · split
    · simp_all
    · split <;> simp_all [refuse]

@[simp] lemma readOutput_eq_unknownHome_iff {home : String} {v : Value} :
    LogOutput.read home v = .refused .unknownHome ↔
      ∃ destination, within? "destination" v = some destination ∧
        BeginsAtUnknownHome home destination := by
  simp [LogOutput.read, exists_within?_iff, BeginsAtUnknownHome]

@[simp] lemma readOutputs_eq_unknownHome_iff {home : String} {v : Value} :
    LoggingSettings.readOutputs home v = .refused .unknownHome ↔
      ∃ output ∈ itemsOf v, LogOutput.read home output = .refused .unknownHome := by
  cases v <;> simp [LoggingSettings.readOutputs, itemsOf]

@[simp] lemma readLogging_eq_unknownHome_iff {home : String} {v : Value} :
    LoggingSettings.read home v = .refused .unknownHome ↔
      ∃ outputs, within? "outputs" v = some outputs ∧
        LoggingSettings.readOutputs home outputs = .refused .unknownHome := by
  simp [LoggingSettings.read, exists_within?_iff]

end Settings

end ProjectCheck
