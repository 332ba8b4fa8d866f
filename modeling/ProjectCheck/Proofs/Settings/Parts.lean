import Mathlib.Data.List.Nodup
import ProjectCheck.Proofs.Settings.Rereading
import ProjectCheck.Proofs.Value.Overlay
import ProjectCheck.Settings.Environment

/-!
# Settings one by one

The readers of the sections take the settings of a section all at once.  Here each setting is itself
an object (`Setting`): its name, how its value is read, and what it is among the settings that were
read.  A section (`Part`) lists its settings, and carries that reading it comes to reading each of
them.  `Part.all` lists the sections.  Nothing is missing from the lists (`eq_of_forall_setting`),
so what is shown of every setting in them is shown of the settings as a whole (`exists_ofMembers`).
-/

namespace ProjectCheck.Settings

open ProjectCheck.Value

/-! ## Settings -/

/-- A reader takes no mapping. -/
structure RefusesMappings {α : Type} (read : Value → Reading α) : Prop where
  record : ∀ members, ∃ why, read (.record members) = .refused why
  mapping : ∀ entries, ∃ why, read (.mapping entries) = .refused why

lemma RefusesMappings.entries?_eq_none {α : Type} {read : Value → Reading α}
    (h : RefusesMappings read) {v : Value} {a : α} (hread : read v = .done a) :
    v.entries? = none := by
  cases v with
  | record members =>
    obtain ⟨why, hwhy⟩ := h.record members
    simp [hwhy] at hread
  | mapping entries =>
    obtain ⟨why, hwhy⟩ := h.mapping entries
    simp [hwhy] at hread
  | _ => rfl

/-- A setting of a section. -/
structure Setting (σ : Type) where
  name : String
  {Content : Type}
  /-- How its value is read, with a home directory. -/
  read : String → Value → Reading Content
  /-- What it is among the settings of its section. -/
  of : σ → Content
  /-- What is accepted again as it stands. -/
  Stands : Content → Prop := fun _ => True
  refusesMappings : ∀ home, RefusesMappings (read home) := by
    exact fun _ => ⟨fun _ => ⟨_, rfl⟩, fun _ => ⟨_, rfl⟩⟩

namespace Setting

variable {σ : Type} (x : Setting σ) (home : String)

/-- A value is taken for a setting, and taken again as it stands. -/
def Accepts (v : Value) : Prop :=
  ∃ a, x.read home v = .done a ∧ x.Stands a

/-- A setting is what is said of it, or its default if nothing is. -/
def Follows (standard : σ) (said : Option Value) (s : σ) : Prop :=
  match said with
  | none => x.of s = x.of standard
  | some v => x.read home v = .done (x.of s)

/-- The reading of a setting among the members of its section. -/
def field (standard : σ) (members : List (String × Value)) : Reading x.Content :=
  Reading.field members x.name (x.of standard) (x.read home)

variable {x home} {standard s : σ} {members : List (String × Value)}

lemma exists_field (h : ∀ v, Table.get? x.name members = some v → x.Accepts home v) :
    ∃ a, x.field home standard members = .done a := by
  unfold field Reading.field
  cases hsaid : Table.get? x.name members with
  | none => exact ⟨_, rfl⟩
  | some v =>
    obtain ⟨a, ha, -⟩ := h v hsaid
    exact ⟨a, Reading.beyond_eq_done_iff.2 ha⟩

lemma follows_of_field (h : x.field home standard members = .done (x.of s)) :
    x.Follows home standard (Table.get? x.name members) s := by
  unfold field Reading.field at h
  unfold Follows
  cases hsaid : Table.get? x.name members with
  | none =>
    rw [hsaid] at h
    exact (Reading.done.inj h).symm
  | some v =>
    rw [hsaid] at h
    exact Reading.beyond_eq_done_iff.1 h

/-- What is accepted stands, once it is read. -/
lemma Accepts.stands {v : Value} (h : x.Accepts home v) {a : x.Content}
    (ha : x.read home v = .done a) : x.Stands a := by
  obtain ⟨b, hb, hstands⟩ := h
  obtain rfl : b = a := Reading.done.inj (hb.symm.trans ha)
  exact hstands

/-- So does a setting that follows what is accepted, if its default stands. -/
lemma Follows.stands {said : Option Value} (h : x.Follows home standard said s)
    (haccepted : ∀ v, said = some v → x.Accepts home v) (hstandard : x.Stands (x.of standard)) :
    x.Stands (x.of s) := by
  unfold Follows at h
  cases said with
  | none => exact h ▸ hstandard
  | some v => exact (haccepted v rfl).stands h

end Setting

/-! ## Sections -/

/-- A section of the settings. -/
structure Part where
  name : String
  {Content : Type}
  standard : Content
  read : String → Value → Reading Content
  /-- What it is among all settings. -/
  of : Settings → Content
  settings : List (Setting Content)
  of_standard : of {} = standard := by rfl
  /-- To read a section is to read its settings. -/
  reads : ∀ (home : String) (members : List (String × Value)),
    (∀ x ∈ settings, ∃ a, x.field home standard members = .done a) →
    ∃ s, read home (.record members) = .done s ∧
      ∀ x ∈ settings, x.field home standard members = .done (x.of s)

namespace Part

/-- The settings of the log. -/
def logging : Part where
  name := "logging"
  standard := LoggingSettings.standard
  read := LoggingSettings.read
  of := Settings.logging
  settings :=
    [{ name := "level", read := fun _ => readChoice LogLevel.choices, of := (·.level) },
     { name := "outputs", read := LoggingSettings.readOutputs, of := (·.outputs) }]
  reads home members h := by
    simp only [List.forall_mem_cons, List.not_mem_nil, false_implies, implies_true, and_true,
      Setting.field] at h ⊢
    obtain ⟨⟨level, hlevel⟩, ⟨outputs, houtputs⟩⟩ := h
    exact ⟨⟨level, outputs⟩, by simp [LoggingSettings.read, Reading.group, hlevel, houtputs],
      hlevel, houtputs⟩

/-- The settings of module resolution. -/
def resolver : Part where
  name := "resolver"
  standard := ResolverSettings.standard
  read := fun _ => ResolverSettings.read
  of := Settings.resolver
  settings :=
    [{ name := "manifest_path", read := fun _ => readText, of := (·.manifestPath) },
     { name := "config_ttl_sec", read := fun _ => ResolverSettings.readTtl, of := (·.manifestTtl) },
     { name := "alias_prefix", read := fun _ => readText, of := (·.aliasLead) },
     { name := "file_tree_ttl_sec", read := fun _ => ResolverSettings.readTtl, of := (·.treeTtl) }]
  reads home members h := by
    simp only [List.forall_mem_cons, List.not_mem_nil, false_implies, implies_true, and_true,
      Setting.field] at h ⊢
    obtain ⟨⟨path, hpath⟩, ⟨ttl, httl⟩, ⟨lead, hlead⟩, ⟨treeTtl, htreeTtl⟩⟩ := h
    exact ⟨⟨path, ttl, lead, treeTtl⟩,
      by simp [ResolverSettings.read, Reading.group, hpath, httl, hlead, htreeTtl],
      hpath, httl, hlead, htreeTtl⟩

/-- The settings of the project scan. -/
def scanner : Part where
  name := "scanner"
  standard := ScannerSettings.standard
  read := fun _ => ScannerSettings.read
  of := Settings.scanner
  settings :=
    [{ name := "source_root", read := fun _ => ScannerSettings.readSourceRoot, of := (·.sourceRoot)
       Stands := fun root => ScannerSettings.sourceRootOf? root = some root },
     { name := "max_files", read := fun _ => ScannerSettings.readMaxFiles, of := (·.maxFiles) },
     { name := "tree_timeout_ms", read := fun _ => readInteger, of := (·.treeTimeoutMs) },
     { name := "batch_timeout_ms", read := fun _ => readInteger, of := (·.batchTimeoutMs) },
     { name := "start_delimiter", read := fun _ => readText, of := (·.startDelimiter) },
     { name := "end_delimiter", read := fun _ => readText, of := (·.endDelimiter) },
     { name := "unreadable_sentinel", read := fun _ => readText, of := (·.unreadableMark) }]
  reads home members h := by
    simp only [List.forall_mem_cons, List.not_mem_nil, false_implies, implies_true, and_true,
      Setting.field] at h ⊢
    obtain ⟨⟨root, hroot⟩, ⟨files, hfiles⟩, ⟨tree, htree⟩, ⟨batch, hbatch⟩, ⟨start, hstart⟩,
      ⟨stop, hstop⟩, ⟨mark, hmark⟩⟩ := h
    exact ⟨⟨root, files, tree, batch, start, stop, mark⟩,
      by simp [ScannerSettings.read, Reading.group, hroot, hfiles, htree, hbatch, hstart, hstop,
        hmark],
      hroot, hfiles, htree, hbatch, hstart, hstop, hmark⟩

/-- The settings of the compiler and the linter. -/
def compiler : Part where
  name := "compiler"
  standard := CompilerSettings.standard
  read := fun _ => CompilerSettings.read
  of := Settings.compiler
  settings :=
    [{ name := "enabled", read := fun _ => readTruth, of := (·.enabled) },
     { name := "command", read := fun _ => readText, of := (·.command) },
     { name := "timeout_ms", read := fun _ => readInteger, of := (·.timeoutMs) },
     { name := "lint_command", read := fun _ => readOptionalText, of := (·.lintCommand) },
     { name := "lint_timeout_ms", read := fun _ => readInteger, of := (·.lintTimeoutMs) }]
  reads home members h := by
    simp only [List.forall_mem_cons, List.not_mem_nil, false_implies, implies_true, and_true,
      Setting.field] at h ⊢
    obtain ⟨⟨enabled, henabled⟩, ⟨command, hcommand⟩, ⟨timeout, htimeout⟩, ⟨lint, hlint⟩,
      ⟨lintTimeout, hlintTimeout⟩⟩ := h
    exact ⟨⟨enabled, command, timeout, lint, lintTimeout⟩,
      by simp [CompilerSettings.read, Reading.group, henabled, hcommand, htimeout, hlint,
        hlintTimeout],
      henabled, hcommand, htimeout, hlint, hlintTimeout⟩

/-- The settings of the optional detectors. -/
def detectors : Part where
  name := "detectors"
  standard := DetectorSettings.standard
  read := fun _ => DetectorSettings.read
  of := Settings.detectors
  settings :=
    [{ name := "content_lint", read := fun _ => readTruth, of := (·.contentLint) },
     { name := "project_navigation", read := fun _ => readTruth, of := (·.projectNavigation) }]
  reads home members h := by
    simp only [List.forall_mem_cons, List.not_mem_nil, false_implies, implies_true, and_true,
      Setting.field] at h ⊢
    obtain ⟨⟨lint, hlint⟩, ⟨navigation, hnavigation⟩⟩ := h
    exact ⟨⟨lint, navigation⟩, by simp [DetectorSettings.read, Reading.group, hlint, hnavigation],
      hlint, hnavigation⟩

/-- All sections, in order. -/
def all : List Part :=
  [logging, resolver, scanner, compiler, detectors]

lemma map_name_all : all.map (·.name) = sectionNames :=
  rfl

lemma settingNames_name : ∀ part ∈ all, settingNames part.name = part.settings.map (·.name) := by
  simp only [all, List.forall_mem_cons, List.not_mem_nil, false_implies, implies_true, and_true]
  exact ⟨rfl, rfl, rfl, rfl, rfl⟩

lemma eq_of_name_eq {part other : Part} (hpart : part ∈ all) (hother : other ∈ all)
    (h : part.name = other.name) : part = other :=
  List.inj_on_of_nodup_map (map_name_all ▸ by decide) hpart hother h

lemma setting_eq_of_name_eq {part : Part} (hpart : part ∈ all) {x y : Setting part.Content}
    (hx : x ∈ part.settings) (hy : y ∈ part.settings) (h : x.name = y.name) : x = y := by
  have hnodup : ∀ name ∈ sectionNames, (settingNames name).Nodup := by decide
  refine List.inj_on_of_nodup_map ?_ hx hy h
  rw [← settingNames_name part hpart]
  exact hnodup _ (map_name_all ▸ List.mem_map_of_mem hpart)

variable {part : Part} {home : String} {members inner : List (String × Value)}

/-- A section is read if its settings are accepted, and they are what is said of them. -/
lemma exists_read (h : ∀ x ∈ part.settings, ∀ v, Table.get? x.name inner = some v →
      x.Accepts home v) :
    ∃ s, part.read home (.record inner) = .done s ∧
      ∀ x ∈ part.settings, x.Follows home part.standard (Table.get? x.name inner) s := by
  obtain ⟨s, hread, hfields⟩ := part.reads home inner fun x hx => Setting.exists_field (h x hx)
  exact ⟨s, hread, fun x hx => Setting.follows_of_field (hfields x hx)⟩

/-- So is a section among all members, be it there or not. -/
lemma exists_field
    (hrecord : ∀ v, Table.get? part.name members = some v → ∃ inner, v = .record inner)
    (h : ∀ x ∈ part.settings, ∀ v, at? [part.name, x.name] (.record members) = some v →
      x.Accepts home v) :
    ∃ s, Reading.field members part.name part.standard (part.read home) = .done s ∧
      ∀ x ∈ part.settings,
        x.Follows home part.standard (at? [part.name, x.name] (.record members)) s := by
  unfold Reading.field
  simp only [at?_cons_record] at h ⊢
  cases hpart : Table.get? part.name members with
  | none => exact ⟨part.standard, rfl, fun x _ => rfl⟩
  | some v =>
    obtain ⟨inner, rfl⟩ := hrecord v hpart
    simp only [hpart, Option.bind_some, at?_singleton_record] at h ⊢
    obtain ⟨s, hread, hfollows⟩ := exists_read h
    exact ⟨s, Reading.beyond_eq_done_iff.2 hread, hfollows⟩

end Part

/-! ## All settings -/

/-- Settings that agree in every setting of every section are the same. -/
theorem eq_of_forall_setting {s t : Settings}
    (h : ∀ part ∈ Part.all, ∀ x ∈ part.settings, x.of (part.of s) = x.of (part.of t)) : s = t := by
  simp only [Part.all, Part.logging, Part.resolver, Part.scanner, Part.compiler, Part.detectors,
    List.forall_mem_cons, List.not_mem_nil, false_implies, implies_true, and_true] at h
  obtain ⟨⟨_, _⟩, ⟨_, _, _, _⟩, ⟨_, _, _, _, _, _, _⟩, ⟨_, _, _, _, _⟩, ⟨_, _⟩⟩ := s
  obtain ⟨⟨_, _⟩, ⟨_, _, _, _⟩, ⟨_, _, _, _, _, _, _⟩, ⟨_, _, _, _, _⟩, ⟨_, _⟩⟩ := t
  simp_all

/-- Sections that are nested records of accepted settings. -/
structure IsLayer (home : String) (members : List (String × Value)) : Prop where
  nested : IsNested (.record members)
  known : ∀ name ∈ Table.keys members, name ∈ sectionNames
  isRecord : ∀ part ∈ Part.all, ∀ v, Table.get? part.name members = some v →
    ∃ inner, v = .record inner
  accepted : ∀ part ∈ Part.all, ∀ x ∈ part.settings, ∀ v,
    at? [part.name, x.name] (.record members) = some v → x.Accepts home v

end ProjectCheck.Settings
