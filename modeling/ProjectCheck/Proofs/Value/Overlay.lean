import ProjectCheck.Proofs.Cache.Life
import ProjectCheck.Value.Overlay

/-!
# What values laid over one another hold

A nested record (`IsNested`) leads from names to values that are no mappings, by ways of any length;
`at?` follows such a way.  Under each name, what is laid over a record covers or is laid over what
the record holds there (`get?_overlayMembers`), and the names of the record stay in front
(`keys_overlayMembers`).

From this step two facts about whole ways follow, by induction on the way.  Where a way leads to
something in the upper layer, both layers together hold this, laid over what the lower layer holds
there (`at?_overlay_of_some`); so a value that is no mapping covers all that is below it
(`at?_overlay_of_leaf`).  Where the upper layer says nothing, what the lower one holds is left
(`at?_overlay_of_open`).  `overlay_way_by_way` puts them together: what arises is decided way by way
(`LiesOver`), and a record changes neither itself nor an empty one, nor does an empty one change it.
-/

namespace ProjectCheck

/-! ## Names that a table has or lacks -/

namespace Table

variable {κ ν : Type} [DecidableEq κ] {key : κ} {table : Table κ ν}

lemma get?_eq_none_iff : get? key table = none ↔ key ∉ table.keys := by
  induction table with
  | nil => simp [get?, keys]
  | cons entry rest ih =>
    rw [get?]
    by_cases hentry : entry.1 = key
    · simp [keys, hentry]
    · rw [if_neg hentry, ih]
      simp [keys, Ne.symm hentry]

lemma put_of_not_mem {value : ν} (h : key ∉ table.keys) :
    put key value table = table ++ [(key, value)] := by
  induction table with
  | nil => rfl
  | cons entry rest ih =>
    obtain ⟨hfirst, hrest⟩ := List.ne_and_not_mem_of_not_mem_cons h
    rw [put, if_neg (Ne.symm hfirst), ih hrest]
    rfl

/-- A key that is there keeps its place. -/
lemma keys_put_of_mem {value : ν} (h : key ∈ table.keys) :
    (put key value table).keys = table.keys := by
  induction table with
  | nil => simp [keys] at h
  | cons entry rest ih =>
    rw [put]
    by_cases hentry : entry.1 = key
    · simp [keys, hentry]
    · have hrest : key ∈ keys rest := (List.mem_cons.1 h).resolve_left (Ne.symm hentry)
      rw [if_neg hentry]
      exact congrArg (entry.1 :: ·) (ih hrest)

/-- To give a key the value that it has changes nothing. -/
lemma put_of_get?_eq_some {value : ν} (h : get? key table = some value) :
    put key value table = table := by
  induction table with
  | nil => simp [get?] at h
  | cons entry rest ih =>
    obtain ⟨name, old⟩ := entry
    rw [get?] at h
    rw [put]
    by_cases hname : name = key
    · obtain rfl : old = value := by simpa [hname] using h
      simp [hname]
    · simp only [hname, if_false] at h ⊢
      rw [ih h]

end Table

namespace Value

variable {base top v w : Value} {own members given : List (String × Value)} {name : String}
  {path : List String}

/-! ## Names -/

/-- The names among some keys. -/
def textKeys (keys : List Value) : List String :=
  keys.filterMap text?

/-- The names of a mapping. -/
def names : Value → List String
  | record members => Table.keys members
  | mapping entries => textKeys (Table.keys entries)
  | _ => []

lemma names_of_leaf (h : v.entries? = none) : v.names = [] := by
  cases v with
  | record members => simp [entries?] at h
  | mapping entries => simp [entries?] at h
  | _ => rfl

/-- What becomes of what two layers say under one name. -/
def overlay? : Option Value → Option Value → Option Value
  | base, none => base
  | none, some top => some top
  | some base, some top => some (base.overlay top)

lemma get?_overlayMembers (h : (Table.keys members).Nodup) :
    Table.get? name (overlayMembers own members) =
      overlay? (Table.get? name own) (Table.get? name members) := by
  induction members generalizing own with
  | nil =>
    rw [overlayMembers]
    rfl
  | cons member rest ih =>
    obtain ⟨first, value⟩ := member
    obtain ⟨hfirst, hrest⟩ := List.nodup_cons.1 h
    rw [overlayMembers, ih hrest]
    by_cases hname : first = name
    · -- the names behind the first are others, so what is put there stays
      subst hname
      rw [Table.get?_eq_none_iff.2 hfirst, Table.get?_put_self]
      cases hown : Table.get? first own <;> simp [Table.get?, overlay?]
    · rw [Table.get?_put_of_ne (Ne.symm hname)]
      simp [Table.get?, hname]

lemma mem_keys_overlayMembers :
    name ∈ Table.keys (overlayMembers own members) ↔
      name ∈ Table.keys own ∨ name ∈ Table.keys members := by
  induction members generalizing own with
  | nil => simp [overlayMembers, Table.keys]
  | cons member rest ih =>
    rw [overlayMembers, ih, Table.mem_keys_put]
    simp only [Table.keys, List.map_cons, List.mem_cons]
    rw [or_left_comm, or_assoc]

/-- The names that were there come first, and the new ones follow in their order. -/
lemma keys_overlayMembers (h : (Table.keys members).Nodup) :
    Table.keys (overlayMembers own members) =
      Table.keys own ++ (Table.keys members).filter (· ∉ Table.keys own) := by
  induction members generalizing own with
  | nil => simp [overlayMembers, Table.keys]
  | cons member rest ih =>
    obtain ⟨first, value⟩ := member
    obtain ⟨hfirst, hrest⟩ := List.nodup_cons.1 h
    have hkeys : Table.keys ((first, value) :: rest) = first :: Table.keys rest := rfl
    rw [overlayMembers, ih hrest, hkeys]
    by_cases hown : first ∈ Table.keys own
    · rw [Table.keys_put_of_mem hown, List.filter_cons_of_neg (by simpa using hown)]
    · -- the first name is put at the end, and does not come again
      have hput : ∀ covered : Value, Table.keys (Table.put first covered own) =
          Table.keys own ++ [first] := by
        intro covered
        rw [Table.put_of_not_mem hown, Table.keys, List.map_append]
        rfl
      have hothers : ∀ other ∈ Table.keys rest,
          (other ∉ Table.keys own ++ [first] ↔ other ∉ Table.keys own) := by
        intro other hother
        have hne : other ≠ first := fun heq => hfirst (heq ▸ hother)
        simp [hne]
      rw [hput, List.filter_cons_of_pos (by simpa using hown), List.append_assoc,
        List.singleton_append]
      refine congrArg (fun new => Table.keys own ++ first :: new) ?_
      exact List.filter_congr fun other hother => decide_eq_decide.2 (hothers other hother)

/-- Members under new names are put behind those that are there. -/
lemma overlayMembers_of_disjoint (h : (Table.keys (own ++ members)).Nodup) :
    overlayMembers own members = own ++ members := by
  induction members generalizing own with
  | nil => simp [overlayMembers]
  | cons member rest ih =>
    obtain ⟨first, value⟩ := member
    have hfirst : first ∉ Table.keys own := by
      intro hmem
      rw [Table.keys, List.map_append, List.nodup_append] at h
      exact h.2.2 first hmem first List.mem_cons_self rfl
    rw [overlayMembers, Table.get?_eq_none_iff.2 hfirst, Table.put_of_not_mem hfirst, ih]
    · simp
    · simpa using h

/-- Members that change nothing one by one change nothing together. -/
lemma overlayMembers_of_absorbed
    (h : ∀ member ∈ members, ∃ below, Table.get? member.1 own = some below ∧
      below.overlay member.2 = below) :
    overlayMembers own members = own := by
  induction members with
  | nil => rw [overlayMembers]
  | cons member rest ih =>
    obtain ⟨first, value⟩ := member
    obtain ⟨below, hbelow, habsorbed⟩ := h (first, value) List.mem_cons_self
    rw [overlayMembers, hbelow]
    simp only [habsorbed]
    rw [Table.put_of_get?_eq_some hbelow]
    exact ih fun m hm => h m (List.mem_cons_of_mem _ hm)

lemma overlay_of_leaf (h : top.entries? = none) (base : Value) : base.overlay top = top := by
  cases top with
  | record members => simp [entries?] at h
  | mapping entries => simp [entries?] at h
  | _ => rw [overlay]

lemma overlay_record_of_leaf (h : base.entries? = none) (members : List (String × Value)) :
    base.overlay (record members) = record members := by
  cases base with
  | record own => simp [entries?] at h
  | mapping own => simp [entries?] at h
  | _ => simp [overlay]

lemma overlay_record_record (own members : List (String × Value)) :
    (record own).overlay (record members) = record (overlayMembers own members) := by
  rw [overlay]

/-! ## Nested records -/

/-- A value that is no mapping, or a record with such values under pairwise different names, at any
depth. -/
inductive IsNested : Value → Prop
  | leaf {v : Value} : v.entries? = none → IsNested v
  | record {members : List (String × Value)} : (Table.keys members).Nodup →
      (∀ member ∈ members, IsNested member.2) → IsNested (record members)

lemma IsNested.nodup_keys : IsNested (.record members) → (Table.keys members).Nodup
  | .leaf h => by simp [entries?] at h
  | .record h _ => h

lemma IsNested.of_get? (h : ∀ member ∈ members, IsNested member.2)
    (hname : Table.get? name members = some v) : IsNested v :=
  h (name, v) (Table.mem_of_get?_eq_some hname)

lemma IsNested.of_leaves (hnames : (Table.keys members).Nodup)
    (h : ∀ member ∈ members, member.2.entries? = none) : IsNested (.record members) :=
  .record hnames fun member hmember => .leaf (h member hmember)

/-- Laying members over others keeps records nested, if laying each of them does. -/
lemma isNested_overlayMembers
    (h : ∀ member ∈ members, IsNested member.2 ∧ ∀ {base}, IsNested base →
      IsNested (base.overlay member.2))
    (hown : IsNested (.record own)) : IsNested (.record (overlayMembers own members)) := by
  induction members generalizing own with
  | nil =>
    rw [overlayMembers]
    exact hown
  | cons member rest ih =>
    obtain ⟨name, value⟩ := member
    obtain ⟨hvalue, hoverlay⟩ := h (name, value) List.mem_cons_self
    cases hown with
    | leaf hleaf => simp [entries?] at hleaf
    | record hnames hmembers =>
      rw [overlayMembers]
      refine ih (fun m hm => h m (List.mem_cons_of_mem _ hm)) (.record (Table.nodup_keys_put hnames)
        fun m hm => ?_)
      rcases Table.mem_of_mem_put hm with rfl | hm
      · cases hname : Table.get? name own with
        | none => exact hvalue
        | some base => exact hoverlay (.of_get? hmembers hname)
      · exact hmembers m hm

/-- Laying nested records over one another makes nested records. -/
theorem IsNested.overlay (hbase : IsNested base) (htop : IsNested top) :
    IsNested (base.overlay top) := by
  induction htop generalizing base with
  | @leaf v hleaf =>
    rw [overlay_of_leaf hleaf]
    exact .leaf hleaf
  | record hnames hmembers ih =>
    cases hbase with
    | leaf hleaf =>
      rw [overlay_record_of_leaf hleaf]
      exact .record hnames hmembers
    | record hown howns =>
      rw [overlay_record_record]
      exact isNested_overlayMembers (fun m hm => ⟨hmembers m hm, ih m hm⟩) (.record hown howns)

/-- A nested value laid over itself stays as it is. -/
lemma IsNested.overlay_self (h : IsNested v) : v.overlay v = v := by
  induction h with
  | leaf hleaf => exact overlay_of_leaf hleaf _
  | @record members hnames _ ih =>
    rw [overlay_record_record]
    refine congrArg Value.record (overlayMembers_of_absorbed fun member hmember => ?_)
    exact ⟨member.2, (Table.get?_eq_some_iff hnames).2 hmember, ih member hmember⟩

/-- A nested record laid over an empty one stays as it is. -/
lemma IsNested.overlay_empty (h : IsNested (.record members)) :
    (Value.record []).overlay (.record members) = .record members := by
  have hnames : (Table.keys ([] ++ members)).Nodup := h.nodup_keys
  rw [overlay_record_record, overlayMembers_of_disjoint hnames, List.nil_append]

/-- The names of a nested value come first, and those that a record adds follow in their order. -/
lemma IsNested.exists_overlay_record (h : IsNested v) (hnames : (Table.keys members).Nodup) :
    ∃ held, v.overlay (.record members) = .record held ∧
      Table.keys held = v.names ++ (Table.keys members).filter (· ∉ v.names) := by
  cases h with
  | leaf hleaf =>
    refine ⟨members, overlay_record_of_leaf hleaf members, ?_⟩
    rw [names_of_leaf hleaf, List.nil_append, List.filter_eq_self.2 (by simp)]
  | @record own _ _ =>
    exact ⟨overlayMembers own members, overlay_record_record own members,
      keys_overlayMembers hnames⟩

/-! ## Ways of names -/

/-- What a way of names leads to. -/
def at? : List String → Value → Option Value
  | [], v => some v
  | name :: path, v => (v.member? name).bind (at? path)

@[simp] lemma at?_cons_record (name : String) (path : List String)
    (members : List (String × Value)) :
    at? (name :: path) (record members) = (Table.get? name members).bind (at? path) :=
  rfl

lemma at?_singleton_record (name : String) (members : List (String × Value)) :
    at? [name] (record members) = Table.get? name members := by
  rw [at?_cons_record]
  cases Table.get? name members <;> rfl

/-- Behind a value that is no mapping there is nothing. -/
lemma at?_cons_of_leaf (h : v.entries? = none) (name : String) (path : List String) :
    at? (name :: path) v = none := by
  cases v with
  | record members => simp [entries?] at h
  | _ => rfl

/-- A way goes on from what its first part leads to. -/
lemma at?_append (path more : List String) (v : Value) :
    at? (path ++ more) v = (at? path v).bind (at? more) := by
  induction path generalizing v with
  | nil => rfl
  | cons name path ih =>
    rw [List.cons_append, at?, at?, Option.bind_assoc]
    exact congrArg _ (funext ih)

/-- What stands in a nested value is nested. -/
lemma IsNested.of_at? (h : IsNested v) (hw : at? path v = some w) : IsNested w := by
  induction path generalizing v with
  | nil => exact Option.some.inj hw ▸ h
  | cons name path ih =>
    cases h with
    | leaf hleaf => simp [at?_cons_of_leaf hleaf] at hw
    | record hnames hmembers =>
      rw [at?_cons_record] at hw
      obtain ⟨u, hu, hpath⟩ := Option.bind_eq_some_iff.1 hw
      exact ih (.of_get? hmembers hu) hpath

/-- **What the upper layer holds is laid over what the lower one holds in the same place.** -/
theorem at?_overlay_of_some (hbase : IsNested base) (htop : IsNested top)
    (h : at? path top = some w) :
    at? path (base.overlay top) = overlay? (at? path base) (some w) := by
  induction path generalizing base top with
  | nil =>
    obtain rfl : top = w := Option.some.inj h
    rfl
  | cons name path ih =>
    cases htop with
    | leaf hleaf => simp [at?_cons_of_leaf hleaf] at h
    | @record members hnames hmembers =>
      cases hbase with
      | leaf hleaf =>
        rw [overlay_record_of_leaf hleaf, at?_cons_of_leaf hleaf]
        exact h
      | @record own hown howns =>
        rw [overlay_record_record, at?_cons_record, get?_overlayMembers hnames, at?_cons_record]
        rw [at?_cons_record] at h
        obtain ⟨u, hu, hpath⟩ := Option.bind_eq_some_iff.1 h
        rw [hu]
        cases hbelow : Table.get? name own with
        | none => exact hpath
        | some b => exact ih (.of_get? howns hbelow) (.of_get? hmembers hu) hpath

/-- A value that is no mapping covers what is below it. -/
theorem at?_overlay_of_leaf (hbase : IsNested base) (htop : IsNested top) (hv : v.entries? = none)
    (h : at? path top = some v) : at? path (base.overlay top) = some v := by
  rw [at?_overlay_of_some hbase htop h]
  cases at? path base with
  | none => rfl
  | some b => exact congrArg some (overlay_of_leaf hv b)

/-- Where the upper layer says nothing, and no value on the way there stands for all behind it, what
is below stays. -/
theorem at?_overlay_of_open (hbase : IsNested base) (htop : IsNested top) (h : at? path top = none)
    (hopen : ∀ front w, front <+: path → at? front top = some w → w.entries? ≠ none) :
    at? path (base.overlay top) = at? path base := by
  induction path generalizing base top with
  | nil => simp [at?] at h
  | cons name path ih =>
    cases htop with
    | leaf hleaf => exact absurd hleaf (hopen [] top List.nil_prefix rfl)
    | @record members hnames hmembers =>
      cases hbase with
      | leaf hleaf => rw [overlay_record_of_leaf hleaf, h, at?_cons_of_leaf hleaf]
      | @record own hown howns =>
        rw [overlay_record_record, at?_cons_record, get?_overlayMembers hnames, at?_cons_record]
        rw [at?_cons_record] at h
        cases hw : Table.get? name members with
        | none => rfl
        | some w =>
          rw [hw] at h
          cases hbelow : Table.get? name own with
          | none => exact h
          | some b =>
            refine ih (.of_get? howns hbelow) (.of_get? hmembers hw) h fun front u hfront hu => ?_
            exact hopen (name :: front) u (List.cons_prefix_cons.2 ⟨rfl, hfront⟩) (by simp [hw, hu])

/-! ## Way by way -/

/-- The names under what a way leads to, in their order. -/
def namesAt (path : List String) (v : Value) : List String :=
  (at? path v).elim [] names

/-- What two layers hold together, way by way. -/
structure LiesOver (base top both : Value) : Prop where
  /-- A value of the upper layer that is no mapping is what both hold. -/
  covers : ∀ path v, v.entries? = none → at? path top = some v → at? path both = some v
  /-- Behind such a value there is nothing. -/
  nothing_behind : ∀ path v, v.entries? = none → at? path top = some v →
    ∀ name more, at? (path ++ name :: more) both = none
  /-- A record of the upper layer lies over the names that are there, and adds its own behind
  them. -/
  adds_names : ∀ path given, at? path top = some (.record given) →
    ∃ held, at? path both = some (.record held) ∧
      Table.keys held =
        namesAt path base ++ (Table.keys given).filter (· ∉ namesAt path base)
  /-- What the upper layer does not mention is left as the lower one has it. -/
  leaves_open : ∀ path, at? path top = none →
    (∀ front v, front <+: path → at? front top = some v → v.entries? ≠ none) →
    at? path both = at? path base

/-- A record of the upper layer makes a record of both, with the names of the lower layer first. -/
lemma exists_at?_overlay_of_record (hbase : IsNested base) (htop : IsNested top)
    (h : at? path top = some (.record given)) :
    ∃ held, at? path (base.overlay top) = some (.record held) ∧
      Table.keys held =
        namesAt path base ++ (Table.keys given).filter (· ∉ namesAt path base) := by
  have hgiven : (Table.keys given).Nodup := (htop.of_at? h).nodup_keys
  rw [at?_overlay_of_some hbase htop h, namesAt]
  cases hbelow : at? path base with
  | none =>
    have hall : (Table.keys given).filter (· ∉ ([] : List String)) = Table.keys given :=
      List.filter_eq_self.2 (by simp)
    exact ⟨given, rfl, hall.symm⟩
  | some b =>
    obtain ⟨held, hheld, hkeys⟩ := (hbase.of_at? hbelow).exists_overlay_record hgiven
    exact ⟨held, congrArg some hheld, hkeys⟩

lemma IsNested.liesOver (hbase : IsNested base) (htop : IsNested top) :
    LiesOver base top (base.overlay top) where
  covers _ _ hv h := at?_overlay_of_leaf hbase htop hv h
  nothing_behind path v hv h name more := by
    rw [at?_append, at?_overlay_of_leaf hbase htop hv h]
    exact at?_cons_of_leaf hv name more
  adds_names _ _ h := exists_at?_overlay_of_record hbase htop h
  leaves_open _ h hopen := at?_overlay_of_open hbase htop h hopen

/-- **Laying nested records over one another goes way by way.**  A value of the upper record that is
no mapping is what both hold, with nothing behind it; where the upper record holds a mapping, so do
both, with the names of the lower one first and the new names behind them, each in their order; and
what the upper record neither mentions nor covers is as in the lower one.  A record laid over
itself, over an empty one or under an empty one stays as it is. -/
theorem overlay_way_by_way (hown : IsNested (.record own)) (hmembers : IsNested (.record members)) :
    LiesOver (.record own) (.record members) ((Value.record own).overlay (.record members)) ∧
      IsNested ((Value.record own).overlay (.record members)) ∧
      (Value.record own).overlay (.record []) = .record own ∧
      (Value.record []).overlay (.record members) = .record members ∧
      (Value.record own).overlay (.record own) = .record own := by
  refine ⟨hown.liesOver hmembers, hown.overlay hmembers, ?_, hmembers.overlay_empty,
    hown.overlay_self⟩
  rw [overlay_record_record, overlayMembers]

/-- Two sections of settings. -/
def lowerSections : List (String × Value) :=
  [("scanner", .record [("max_files", .int 100), ("source_root", .text "src")]),
    ("logging", .record [("level", .text "INFO")])]

/-- Sections of which one is new, one is no mapping and one says something more. -/
def upperSections : List (String × Value) :=
  [("report", .record []), ("logging", .text "off"),
    ("scanner", .record [("skip", .list [.record []]), ("max_files", .int 10)])]

lemma isNested_lowerSections : IsNested (.record lowerSections) := by
  refine .record (by decide) fun member hmember => ?_
  simp only [lowerSections, List.mem_cons, List.not_mem_nil, or_false] at hmember
  rcases hmember with rfl | rfl
  · exact .of_leaves (by decide) (by simp [entries?])
  · exact .of_leaves (by decide) (by simp [entries?])

lemma isNested_upperSections : IsNested (.record upperSections) := by
  refine .record (by decide) fun member hmember => ?_
  simp only [upperSections, List.mem_cons, List.not_mem_nil, or_false] at hmember
  rcases hmember with rfl | rfl | rfl
  · exact .of_leaves List.nodup_nil (by simp)
  · exact .leaf rfl
  · exact .of_leaves (by decide) (by simp [entries?])

/-- A limit is covered, the directory beside it stays, what was below a covered mapping is gone, and
new names come last on both levels. -/
theorem overlay_sections :
    ∃ both, (Value.record lowerSections).overlay (.record upperSections) = .record both ∧
      at? ["scanner", "max_files"] (.record both) = some (.int 10) ∧
      at? ["scanner", "source_root"] (.record both) = some (.text "src") ∧
      at? ["logging", "level"] (.record both) = none ∧
      Table.keys both = ["scanner", "logging", "report"] ∧
      namesAt ["scanner"] (.record both) = ["max_files", "source_root", "skip"] := by
  obtain ⟨hover, -⟩ := overlay_way_by_way isNested_lowerSections isNested_upperSections
  obtain ⟨both, hboth, hnames⟩ := hover.adds_names [] upperSections rfl
  obtain ⟨scanner, hscanner, hkeys⟩ := hover.adds_names ["scanner"] _ rfl
  have hresult : (Value.record lowerSections).overlay (.record upperSections) = .record both :=
    Option.some.inj hboth
  rw [hresult] at hover hscanner
  refine ⟨both, hresult, hover.covers _ (.int 10) rfl rfl, ?_,
    hover.nothing_behind ["logging"] (.text "off") rfl rfl "level" [], ?_, ?_⟩
  · refine hover.leaves_open ["scanner", "source_root"] rfl fun front v hfront hv => ?_
    -- no value stands for all behind it on the two steps of the way
    simp only [List.prefix_cons_iff, List.prefix_nil] at hfront
    rcases hfront with rfl | ⟨_, rfl, rfl | ⟨_, rfl, rfl⟩⟩
    · obtain rfl := Option.some.inj hv
      simp [entries?]
    · obtain rfl := Option.some.inj hv
      simp [entries?]
    · contradiction
  · exact hnames.trans (by decide)
  · rw [namesAt, hscanner]
    exact hkeys.trans (by decide)

end Value

end ProjectCheck
