import Mathlib.Algebra.Order.Group.Defs
import Mathlib.Algebra.Order.Sub.Unbundled.Basic
import ProjectCheck.Proofs.Cache.Lookup

/-!
# What is alive in a cache

`Cache.live key now` is the entry of a key at a time, if it has not expired by then.  It is what
looking up gives (`fst_get`), and it is all that can ever be seen of a cache: removing what has
expired, be it by looking up or by storing something else, changes nothing that is alive, now or
later (`live_get`, `live_put_of_ne`).  So what becomes of a key is decided by what is stored and
removed under that key, and by the time (`live_put_self`, `live_invalidate`, `live_of_le`).

Time is exact here, and only goes on.
-/

namespace ProjectCheck

/-! ## Keys that are stored once -/

namespace Table

variable {κ ν : Type} [DecidableEq κ] {key : κ} {table : Table κ ν}

/-- The keys of a table. -/
def keys (table : Table κ ν) : List κ :=
  table.map Prod.fst

lemma mem_keys_put {other : κ} {value : ν} :
    other ∈ (put key value table).keys ↔ other = key ∨ other ∈ table.keys := by
  induction table with
  | nil => simp [put, keys]
  | cons entry rest ih =>
    rw [put]
    by_cases hentry : entry.1 = key
    · simp [keys, hentry]
    · simp only [keys, hentry, if_false, List.map_cons, List.mem_cons] at ih ⊢
      rw [ih, or_left_comm]

lemma nodup_keys_put {value : ν} (h : table.keys.Nodup) : (put key value table).keys.Nodup := by
  induction table with
  | nil => simp [put, keys]
  | cons entry rest ih =>
    obtain ⟨hfirst, hrest⟩ := List.nodup_cons.1 h
    rw [put]
    by_cases hentry : entry.1 = key
    · rw [if_pos hentry]
      exact List.nodup_cons.2 ⟨hentry ▸ hfirst, hrest⟩
    · rw [if_neg hentry]
      refine List.nodup_cons.2 ⟨fun hmem => ?_, ih hrest⟩
      exact (mem_keys_put.1 hmem).elim hentry hfirst

omit [DecidableEq κ] in
lemma nodup_keys_filter (keep : κ × ν → Bool) (h : table.keys.Nodup) :
    (keys (table.filter keep)).Nodup :=
  h.sublist (List.filter_sublist.map Prod.fst)

/-- Where each key stands once, looking up finds what stands in the table. -/
lemma get?_eq_some_iff {value : ν} (h : table.keys.Nodup) :
    get? key table = some value ↔ (key, value) ∈ table := by
  refine ⟨mem_of_get?_eq_some, fun hmem => ?_⟩
  induction table with
  | nil => simp at hmem
  | cons entry rest ih =>
    obtain ⟨hfirst, hrest⟩ := List.nodup_cons.1 h
    rcases List.mem_cons.1 hmem with rfl | hmem
    · simp [get?]
    · have hne : entry.1 ≠ key := by
        rintro rfl
        exact hfirst (List.mem_map.2 ⟨_, hmem, rfl⟩)
      rw [get?, if_neg hne, ih hrest hmem]

/-- Where each key stands once, leaving entries out is leaving values out. -/
lemma get?_filter_of_nodup (h : table.keys.Nodup) (keep : κ × ν → Bool) :
    get? key (table.filter keep) = (get? key table).filter fun value => keep (key, value) := by
  induction table with
  | nil => rfl
  | cons entry rest ih =>
    obtain ⟨name, value⟩ := entry
    obtain ⟨hfirst, hrest⟩ := List.nodup_cons.1 h
    by_cases hname : name = key
    · subst hname
      have habsent : get? name (rest.filter keep) = none := by
        by_contra hsome
        obtain ⟨found, hfound⟩ := Option.ne_none_iff_exists'.1 hsome
        have hmem : (name, found) ∈ rest := (List.mem_filter.1 (mem_of_get?_eq_some hfound)).1
        exact hfirst (List.mem_map.2 ⟨_, hmem, rfl⟩)
      by_cases hkeep : keep (name, value) = true
      · simp [hkeep, get?, Option.filter]
      · simp [hkeep, get?, Option.filter, habsent]
    · rw [List.filter_cons]
      by_cases hkeep : keep (name, value) = true
      · simp [hkeep, get?, hname, ih hrest]
      · simp [hkeep, get?, hname, ih hrest]

end Table

namespace Cache

variable {τ κ ν : Type} [DecidableEq κ]

/-- Every key is stored once at most. -/
def KeysDistinct (cache : Cache τ κ ν) : Prop :=
  (Table.keys cache.entries).Nodup

omit [DecidableEq κ] in
lemma keysDistinct_empty (ttl : τ) : (empty ttl : Cache τ κ ν).KeysDistinct :=
  List.nodup_nil

section

variable {cache : Cache τ κ ν}

lemma KeysDistinct.invalidate (h : cache.KeysDistinct) (key : Option κ) :
    (cache.invalidate key).KeysDistinct := by
  cases key with
  | none => exact List.nodup_nil
  | some key => exact Table.nodup_keys_filter _ h

variable [Sub τ] [LE τ] [DecidableLE τ]

lemma KeysDistinct.get (h : cache.KeysDistinct) (key : κ) (now : τ) :
    (cache.get key now).2.KeysDistinct := by
  rw [Cache.get]
  split
  · exact h
  · split
    · exact Table.nodup_keys_filter _ h
    · exact h

lemma KeysDistinct.put (h : cache.KeysDistinct) (key : κ) (value : Option ν) (now : τ) :
    (cache.put key value now).KeysDistinct :=
  Table.nodup_keys_put (Table.nodup_keys_filter _ h)

/-! ## Entries that are alive -/

/-- The entry of a key that has not expired at a time. -/
def live (cache : Cache τ κ ν) (key : κ) (now : τ) : Option (Stored τ ν) :=
  (cache.held key).filter fun entry => !cache.isExpired now entry

/-- What looking up gives is the value that is alive. -/
lemma fst_get (key : κ) (now : τ) (cache : Cache τ κ ν) :
    (cache.get key now).1 = (cache.live key now).bind (·.value) := by
  rw [Cache.get, live, held]
  cases Table.get? key cache.entries with
  | none => rfl
  | some entry =>
    by_cases hexpired : cache.isExpired now entry = true
    · simp [hexpired, Option.filter]
    · simp [hexpired, Option.filter]

lemma live_invalidate (cache : Cache τ κ ν) (key : κ) (removed : Option κ) (now : τ) :
    (cache.invalidate removed).live key now =
      if removed = none ∨ removed = some key then none else cache.live key now := by
  rw [live]
  cases removed with
  | none => rfl
  | some other =>
    by_cases hkey : key = other
    · rw [hkey, held_invalidate_self]
      simp
    · rw [held_invalidate_of_ne hkey, live]
      simp [Ne.symm hkey]
      rfl

end

/-! ## As time goes on -/

variable [AddCommGroup τ] [LinearOrder τ] [IsOrderedAddMonoid τ]
variable {cache : Cache τ κ ν} {key other : κ} {now later : τ}

omit [DecidableEq κ] in
/-- What has expired stays so. -/
lemma isExpired_of_le {entry : Stored τ ν} (h : now ≤ later)
    (hexpired : cache.isExpired now entry = true) : cache.isExpired later entry = true := by
  rw [isExpired, decide_eq_true_eq] at hexpired ⊢
  exact hexpired.trans (sub_le_sub_right h entry.storedAt)

/-- What is alive later is what is alive now and has not expired by then. -/
lemma live_of_le (h : now ≤ later) :
    cache.live key later =
      (cache.live key now).filter fun entry => !cache.isExpired later entry := by
  rw [live, live]
  cases cache.held key with
  | none => rfl
  | some entry =>
    by_cases hexpired : cache.isExpired now entry = true
    · simp [Option.filter, hexpired, isExpired_of_le h hexpired]
    · simp [Option.filter, hexpired]

/-- Looking up changes nothing that is alive. -/
lemma live_get (h : now ≤ later) :
    (cache.get other now).2.live key later = cache.live key later := by
  rw [Cache.get]
  split
  · rfl
  next entry hentry =>
    split
    next hexpired =>
      rw [live, live, held, held]
      dsimp only
      by_cases hkey : key = other
      · rw [hkey, Table.get?_erase_self, hentry]
        simp only [Option.filter, isExpired_of_le h hexpired]
        rfl
      · rw [Table.get?_erase_of_ne hkey]
        rfl
    · rfl

omit [IsOrderedAddMonoid τ] in
/-- What was stored is alive until it expires. -/
lemma live_put_self (cache : Cache τ κ ν) (key : κ) (value : Option ν) (now later : τ) :
    (cache.put key value now).live key later =
      (some ⟨value, now⟩ : Option (Stored τ ν)).filter fun entry =>
        !cache.isExpired later entry := by
  rw [live, held_put_self]
  rfl

/-- Storing changes nothing that is alive under another key. -/
lemma live_put_of_ne (hdistinct : cache.KeysDistinct) (hkey : key ≠ other) (h : now ≤ later)
    (value : Option ν) : (cache.put other value now).live key later = cache.live key later := by
  rw [live, live, held, Cache.put, Table.get?_put_of_ne hkey, Table.get?_filter_of_nodup hdistinct]
  rw [held]
  cases Table.get? key cache.entries with
  | none => rfl
  | some entry =>
    by_cases hexpired : cache.isExpired now entry = true
    · simp [Option.filter, hexpired, isExpired_of_le h hexpired]
    · simp [Option.filter, hexpired]
      rfl

end Cache

end ProjectCheck
