import ProjectCheck.Proofs.Value.Overlay
import ProjectCheck.Yaml.Document

/-!
# Names in a YAML text

A YAML text may give a name twice in one mapping, or bring it in from another mapping besides.  The
value that is read from it has each name once (`hasDistinctNames_of_readYaml`), in every mapping of
it: entries arrive one by one, and one whose key is there already takes its place
(`nodup_textKeys_putEntry`).  This goes by induction on the tree of nodes, all that a mapping brings
in being part of a value that was read before.
-/

namespace ProjectCheck

namespace Value

/-! ## Values that stand in values -/

/-- The items of a list, or the values of a mapping. -/
def parts : Value → List Value
  | list items => items
  | record members => members.map (·.2)
  | mapping entries => entries.map (·.2)
  | _ => []

/-- A value whose mappings have each of their names once, at any depth. -/
inductive HasDistinctNames : Value → Prop
  | intro {v : Value} : v.names.Nodup → (∀ part ∈ v.parts, HasDistinctNames part) →
      HasDistinctNames v

lemma HasDistinctNames.of_mem_parts {v part : Value} : v.HasDistinctNames → part ∈ v.parts →
    part.HasDistinctNames
  | .intro _ h, hpart => h part hpart

/-! ## Entries that arrive one by one -/

variable {entries : List (Value × Value)} {key value : Value} {name : String}

lemma sameScalar_text : key.sameScalar (text name) = true ↔ key = text name := by
  cases key with
  | float x =>
    simp only [sameScalar, canonical, BEq.beq, reduceCtorEq, iff_false]
    split <;> simp [beq]
  | _ => simp [sameScalar, canonical, BEq.beq, beq]

lemma keys_putEntry (key value : Value) (entries : List (Value × Value)) :
    Table.keys (putEntry key value entries) =
      if (Table.keys entries).any (·.sameScalar key) then Table.keys entries
      else Table.keys entries ++ [key] := by
  induction entries with
  | nil => rfl
  | cons first rest ih =>
    rw [putEntry]
    by_cases hfirst : first.1.sameScalar key = true
    · simp [hfirst, Table.keys]
    · rw [if_neg hfirst]
      simp only [Table.keys, List.map_cons, List.any_cons, hfirst, Bool.false_or] at ih ⊢
      rw [ih]
      exact apply_ite (first.1 :: ·) _ _ _

/-- A name that is there already is not given again. -/
lemma nodup_textKeys_putEntry (h : (textKeys (Table.keys entries)).Nodup) :
    (textKeys (Table.keys (putEntry key value entries))).Nodup := by
  rw [keys_putEntry]
  split
  · exact h
  next habsent =>
    rw [textKeys, List.filterMap_append, ← textKeys]
    refine List.nodup_append.2 ⟨h, ?_, ?_⟩
    · cases hname : key.text? <;> simp [hname]
    · rintro name hold _ hnew rfl
      have hkey : key = text name := by cases key <;> simp_all [text?]
      obtain ⟨old, hmem, htext⟩ := List.mem_filterMap.1 hold
      have hsame : old = text name := by cases old <;> simp_all [text?]
      exact habsent (List.any_eq_true.2 ⟨old, hmem, hkey ▸ sameScalar_text.2 hsame⟩)

lemma mem_values_putEntry {v : Value} (h : v ∈ (putEntry key value entries).map (·.2)) :
    v = value ∨ v ∈ entries.map (·.2) := by
  induction entries with
  | nil => exact .inl (List.mem_singleton.1 h)
  | cons first rest ih =>
    rw [putEntry] at h
    split at h
    · exact (List.mem_cons.1 h).imp_right (List.mem_cons_of_mem _)
    · rcases List.mem_cons.1 h with rfl | hrest
      · exact .inr List.mem_cons_self
      · exact (ih hrest).imp_right (List.mem_cons_of_mem _)

lemma eq_namedEntries_of_membersOf? {members : List (String × Value)}
    (h : membersOf? entries = some members) : entries = namedEntries members := by
  induction entries generalizing members with
  | nil =>
    obtain rfl := Option.some.inj h
    rfl
  | cons first rest ih =>
    obtain ⟨key, value⟩ := first
    cases key with
    | text name =>
      obtain ⟨others, hothers, rfl⟩ := Option.map_eq_some_iff.1 h
      rw [ih hothers]
      rfl
    | _ => cases h

/-- A mapping has the names and the values of its entries, whether it is a record or not. -/
lemma names_parts_ofEntries (entries : List (Value × Value)) :
    (ofEntries entries).names = textKeys (Table.keys entries) ∧
      (ofEntries entries).parts = entries.map (·.2) := by
  unfold ofEntries
  cases hmembers : membersOf? entries with
  | none => exact ⟨rfl, rfl⟩
  | some members =>
    rw [eq_namedEntries_of_membersOf? hmembers]
    constructor
    · simp [names, textKeys, Table.keys, namedEntries, List.filterMap_map, Function.comp_def, text?]
    · simp [parts, namedEntries]

/-- Values with distinct names are gathered to one. -/
lemma hasDistinctNames_gathered (h : ∀ v ∈ entries.map (·.2), v.HasDistinctNames) :
    (gathered entries).HasDistinctNames := by
  have hstep : ∀ kept : List (Value × Value), (textKeys (Table.keys kept)).Nodup →
      (∀ v ∈ kept.map (·.2), v.HasDistinctNames) → (ofEntries (entries.foldl
        (fun kept entry => putEntry entry.1 entry.2 kept) kept)).HasDistinctNames := by
    induction entries with
    | nil =>
      intro kept hnames hvalues
      obtain ⟨hnamesEq, hpartsEq⟩ := names_parts_ofEntries kept
      exact .intro (hnamesEq ▸ hnames) (hpartsEq ▸ hvalues)
    | cons first rest ih =>
      intro kept hnames hvalues
      rw [List.foldl_cons]
      refine ih (fun v hv => h v (List.mem_cons_of_mem _ hv)) _ (nodup_textKeys_putEntry hnames) ?_
      intro v hv
      rcases mem_values_putEntry hv with rfl | hv
      · exact h _ List.mem_cons_self
      · exact hvalues v hv
  exact hstep [] (by simp [textKeys, Table.keys]) (by simp)

end Value

/-! ## Results -/

section

variable {ε α β : Type} {x : Except ε α} {b : β}

lemma bind_eq_ok_iff {f : α → Except ε β} : x >>= f = .ok b ↔ ∃ a, x = .ok a ∧ f a = .ok b := by
  cases x <;> simp [bind, Except.bind]

lemma map_eq_ok_iff {f : α → β} : x.map f = .ok b ↔ ∃ a, x = .ok a ∧ f a = b := by
  cases x <;> simp [Except.map]

end

namespace Yaml

open Value

/-! ## Nodes -/

/-- A plain scalar is no mapping and no list. -/
lemma hasDistinctNames_of_plainScalar {s : List Char} {v : Value} (h : plainScalar s = .ok v) :
    v.HasDistinctNames := by
  have hscalar : v.names = [] ∧ v.parts = [] := by
    simp only [plainScalar] at h
    split at h
    · cases h
      exact ⟨rfl, rfl⟩
    split at h
    · cases h
      exact ⟨rfl, rfl⟩
    split at h
    · cases h
      exact ⟨rfl, rfl⟩
    split at h
    · obtain ⟨x, -, rfl⟩ := map_eq_ok_iff.1 h
      exact ⟨rfl, rfl⟩
    · obtain ⟨n, -, rfl⟩ := map_eq_ok_iff.1 h
      exact ⟨rfl, rfl⟩
    · obtain ⟨m, -, rfl⟩ := map_eq_ok_iff.1 h
      exact ⟨rfl, rfl⟩
    · cases h
      exact ⟨rfl, rfl⟩
  exact .intro (by simp [hscalar.1]) (by simp [hscalar.2])

/-- The values of the entries of a mapping are what stands in it. -/
lemma values_of_entries? {v : Value} {entries : List (Value × Value)}
    (h : v.entries? = some entries) : entries.map (·.2) = v.parts := by
  cases v with
  | record members =>
    obtain rfl := Option.some.inj h
    simp [namedEntries, parts]
  | mapping own =>
    obtain rfl := Option.some.inj h
    rfl
  | _ => cases h

lemma exists_of_mapM_eq_some {α β : Type} {f : α → Option β} {as : List α} {bs : List β}
    (h : as.mapM f = some bs) {b : β} (hb : b ∈ bs) : ∃ a ∈ as, f a = some b := by
  induction as generalizing bs with
  | nil =>
    obtain rfl : [] = bs := Option.some.inj h
    cases hb
  | cons a rest ih =>
    rw [List.mapM_cons] at h
    obtain ⟨first, hfirst, h⟩ := Option.bind_eq_some_iff.1 h
    obtain ⟨others, hothers, h⟩ := Option.bind_eq_some_iff.1 h
    obtain rfl := Option.some.inj h
    rcases List.mem_cons.1 hb with rfl | hb
    · exact ⟨a, List.mem_cons_self, hfirst⟩
    · obtain ⟨c, hc, hfc⟩ := ih hothers hb
      exact ⟨c, List.mem_cons_of_mem _ hc, hfc⟩

/-- Entries that are brought in are those of mappings that were read. -/
lemma hasDistinctNames_of_broughtIn? {v w : Value} {entries : List (Value × Value)}
    (hv : v.HasDistinctNames) (h : broughtIn? v = some entries) (hw : w ∈ entries.map (·.2)) :
    w.HasDistinctNames := by
  have hmapping : ∀ {u : Value} {own : List (Value × Value)}, u.HasDistinctNames →
      u.entries? = some own → w ∈ own.map (·.2) → w.HasDistinctNames := by
    intro u own hu hown hw
    exact hu.of_mem_parts (values_of_entries? hown ▸ hw)
  unfold broughtIn? at h
  split at h
  next mappings =>
    obtain ⟨lists, hlists, rfl⟩ := Option.map_eq_some_iff.1 h
    rw [List.map_flatten] at hw
    obtain ⟨_, hmem, hw⟩ := List.mem_flatten.1 hw
    obtain ⟨own, hown, rfl⟩ := List.mem_map.1 hmem
    obtain ⟨u, hu, hentries⟩ := exists_of_mapM_eq_some hlists hown
    exact hmapping (hv.of_mem_parts (List.mem_reverse.1 hu)) hentries hw
  · exact hmapping hv h hw

/-- An entry brings in others, or is one itself. -/
lemma cases_of_entriesFrom_cons {key node : Node} {rest : List (Node × Node)}
    {other own : List (Value × Value)} (h : entriesFrom ((key, node) :: rest) = .ok (other, own)) :
    ∃ value others owns, valueOf node = .ok value ∧ entriesFrom rest = .ok (others, owns) ∧
      ((∃ more, broughtIn? value = some more ∧ other = more ++ others ∧ own = owns) ∨
        ∃ name, other = others ∧ own = (name, value) :: owns) := by
  rw [entriesFrom] at h
  split at h
  · obtain ⟨value, hvalue, h⟩ := bind_eq_ok_iff.1 h
    obtain ⟨more, hmore, h⟩ := bind_eq_ok_iff.1 h
    obtain ⟨⟨others, owns⟩, hrest, h⟩ := bind_eq_ok_iff.1 h
    cases h
    refine ⟨value, _, _, hvalue, hrest, .inl ⟨more, ?_, rfl, rfl⟩⟩
    cases hbrought : broughtIn? value with
    | none => simp [hbrought, orMalformed] at hmore
    | some entries => simpa [hbrought, orMalformed] using hmore
  · -- however the key is read, what follows is the same
    obtain ⟨name, hname⟩ : ∃ name : Value, (if (!name.isKey) = true then throw .malformed else
        valueOf node >>= fun value => entriesFrom rest >>= fun found =>
          pure (found.1, (name, value) :: found.2)) = (.ok (other, own) : Except Fault _) := by
      simp only at h
      split at h
      · exact ⟨.text "=", h⟩
      · obtain ⟨name, -, h⟩ := bind_eq_ok_iff.1 h
        exact ⟨name, h⟩
    split at hname
    · cases hname
    · obtain ⟨value, hvalue, hname⟩ := bind_eq_ok_iff.1 hname
      obtain ⟨⟨others, owns⟩, hrest, hname⟩ := bind_eq_ok_iff.1 hname
      cases hname
      exact ⟨value, _, _, hvalue, hrest, .inr ⟨name, rfl, rfl⟩⟩

mutual

/-- The value of a node has distinct names. -/
theorem hasDistinctNames_of_valueOf : ∀ {node : Node} {v : Value}, valueOf node = .ok v →
    v.HasDistinctNames
  | .plain word, v, h => by
    rw [valueOf] at h
    split at h
    · cases h
    · exact hasDistinctNames_of_plainScalar h
  | .quoted word, v, h => by
    rw [valueOf] at h
    cases h
    exact .intro List.nodup_nil (by simp [parts])
  | .sequence items, v, h => by
    rw [valueOf, map_eq_ok_iff] at h
    obtain ⟨values, hvalues, rfl⟩ := h
    exact .intro List.nodup_nil (hasDistinctNames_of_valuesOf hvalues)
  | .mapping entries, v, h => by
    rw [valueOf, bind_eq_ok_iff] at h
    obtain ⟨⟨other, own⟩, hentries, hv⟩ := h
    cases hv
    exact hasDistinctNames_gathered (hasDistinctNames_of_entriesFrom hentries)

/-- The values of nodes have distinct names. -/
theorem hasDistinctNames_of_valuesOf : ∀ {items : List Node} {values : List Value},
    valuesOf items = .ok values → ∀ v ∈ values, v.HasDistinctNames
  | [], values, h, v, hv => by
    rw [valuesOf] at h
    cases h
    cases hv
  | item :: rest, values, h, v, hv => by
    rw [valuesOf, bind_eq_ok_iff] at h
    obtain ⟨value, hitem, h⟩ := h
    rw [bind_eq_ok_iff] at h
    obtain ⟨others, hrest, hvalues⟩ := h
    cases hvalues
    rcases List.mem_cons.1 hv with rfl | hv
    · exact hasDistinctNames_of_valueOf hitem
    · exact hasDistinctNames_of_valuesOf hrest v hv

/-- The values of the entries of a mapping, be they its own or not, have distinct names. -/
theorem hasDistinctNames_of_entriesFrom : ∀ {entries : List (Node × Node)}
    {other own : List (Value × Value)}, entriesFrom entries = .ok (other, own) →
    ∀ v ∈ (other ++ own).map (·.2), v.HasDistinctNames
  | [], other, own, h, v, hv => by
    rw [entriesFrom] at h
    cases h
    cases hv
  | (key, node) :: rest, other, own, h, v, hv => by
    obtain ⟨value, others, owns, hvalue, hrest, hcases⟩ := cases_of_entriesFrom_cons h
    have hfirst := hasDistinctNames_of_valueOf hvalue
    have hothers := hasDistinctNames_of_entriesFrom hrest
    simp only [List.map_append, List.mem_append] at hv hothers
    rcases hcases with ⟨more, hmore, rfl, rfl⟩ | ⟨name, rfl, rfl⟩
    · rw [List.map_append, List.mem_append, or_assoc] at hv
      rcases hv with hv | hv
      · exact hasDistinctNames_of_broughtIn? hfirst hmore hv
      · exact hothers v hv
    · rw [List.map_cons, List.mem_cons, or_left_comm] at hv
      rcases hv with rfl | hv
      · exact hfirst
      · exact hothers v hv

end

end Yaml

end ProjectCheck
