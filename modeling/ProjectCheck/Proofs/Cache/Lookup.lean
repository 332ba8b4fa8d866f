import Mathlib.Algebra.Group.Basic
import Mathlib.Order.Basic
import Mathlib.Tactic.Lemma
import ProjectCheck.Cache

/-!
# What a cache holds

`Cache.held` is the entry under a key, expired or not.  It is all that looking up the key depends on
(`get_eq_of_fresh`), and each operation says what becomes of it: storing and removing change the
entry of their own key and let the others be, unless they have expired, and looking up changes
nothing but expired entries.  Whatever a cache holds was stored in it (`mem_of_mem_put`).
-/

namespace ProjectCheck

/-! ## Tables -/

namespace Table

variable {κ ν : Type} [DecidableEq κ] {key other : κ} {value : ν} {table : Table κ ν}

@[simp] lemma get?_put_self (key : κ) (value : ν) (table : Table κ ν) :
    get? key (put key value table) = some value := by
  induction table with
  | nil => simp [put, get?]
  | cons entry rest ih =>
    rw [put]
    split
    · simp [get?]
    next hkey => rw [get?, if_neg hkey, ih]

lemma get?_put_of_ne (h : key ≠ other) (value : ν) (table : Table κ ν) :
    get? key (put other value table) = get? key table := by
  induction table with
  | nil => simp [put, get?, h.symm]
  | cons entry rest ih =>
    rw [put]
    split
    next hentry => simp [get?, hentry, h.symm]
    · rw [get?, get?, ih]

/-- Leaving entries out keeps the entry of a key, if it is not left out. -/
lemma get?_filter {keep : κ × ν → Bool}
    (h : ∀ value, get? key table = some value → keep (key, value) = true) :
    get? key (table.filter keep) = get? key table := by
  induction table with
  | nil => rfl
  | cons entry rest ih =>
    obtain ⟨name, value⟩ := entry
    rw [get?] at h ⊢
    by_cases hname : name = key
    · subst hname
      simp only [if_true, Option.some.injEq, forall_eq'] at h ⊢
      rw [List.filter_cons_of_pos h, get?]
      simp
    · simp only [hname, if_false] at h ⊢
      rw [List.filter_cons]
      split
      · rw [get?, if_neg hname, ih h]
      · exact ih h

@[simp] lemma get?_erase_self (key : κ) (table : Table κ ν) : get? key (erase key table) = none := by
  induction table with
  | nil => rfl
  | cons entry rest ih =>
    rw [erase, List.filter_cons]
    split
    next hkeep => rw [get?, if_neg (by simpa using hkeep), ← erase, ih]
    · exact ih

lemma get?_erase_of_ne (h : key ≠ other) (table : Table κ ν) :
    get? key (erase other table) = get? key table :=
  get?_filter fun _ _ => by simpa using h

lemma mem_of_get?_eq_some (h : get? key table = some value) : (key, value) ∈ table := by
  induction table with
  | nil => simp [get?] at h
  | cons entry rest ih =>
    obtain ⟨name, other⟩ := entry
    rw [get?] at h
    split at h
    next hname =>
      obtain rfl : name = key := hname
      obtain rfl : other = value := Option.some.inj h
      exact List.mem_cons_self
    · exact List.mem_cons_of_mem _ (ih h)

lemma mem_of_mem_put {entry : κ × ν} (h : entry ∈ put key value table) :
    entry = (key, value) ∨ entry ∈ table := by
  induction table with
  | nil => exact Or.inl (by simpa [put] using h)
  | cons first rest ih =>
    rw [put] at h
    split at h
    · rcases List.mem_cons.1 h with hfirst | hrest
      · exact Or.inl hfirst
      · exact Or.inr (List.mem_cons_of_mem _ hrest)
    · rcases List.mem_cons.1 h with rfl | hrest
      · exact Or.inr List.mem_cons_self
      · exact (ih hrest).imp_right (List.mem_cons_of_mem _)

end Table

/-! ## Caches -/

namespace Cache

variable {τ κ ν : Type} [DecidableEq κ]

/-- What a cache holds under a key, expired or not. -/
def held (cache : Cache τ κ ν) (key : κ) : Option (Stored τ ν) :=
  Table.get? key cache.entries

variable {cache : Cache τ κ ν} {key other : κ} {now : τ} {entry : κ × Stored τ ν}

@[simp] lemma ttl_invalidate (key : Option κ) (cache : Cache τ κ ν) :
    (cache.invalidate key).ttl = cache.ttl := by
  cases key <;> rfl

@[simp] lemma held_invalidate_self (cache : Cache τ κ ν) (key : κ) :
    (cache.invalidate (some key)).held key = none :=
  Table.get?_erase_self key cache.entries

/-- Removing another key lets an entry be. -/
lemma held_invalidate_of_ne (h : key ≠ other) (cache : Cache τ κ ν) :
    (cache.invalidate (some other)).held key = cache.held key :=
  Table.get?_erase_of_ne h cache.entries

lemma mem_of_mem_invalidate {removed : Option κ} (h : entry ∈ (cache.invalidate removed).entries) :
    entry ∈ cache.entries := by
  cases removed with
  | none => simp [invalidate] at h
  | some key => exact (List.mem_filter.1 h).1

variable [Sub τ] [LE τ] [DecidableLE τ]

/-- What a cache holds under a key, if anything, has not expired. -/
def IsFresh (cache : Cache τ κ ν) (key : κ) (now : τ) : Prop :=
  ∀ entry, cache.held key = some entry → cache.isExpired now entry = false

/-! ### Looking up -/

/-- Where nothing has expired, looking up gives what is held and changes nothing. -/
lemma get_eq_of_fresh (h : cache.IsFresh key now) :
    cache.get key now = ((cache.held key).bind (·.value), cache) := by
  rw [IsFresh, held] at h
  rw [get, held]
  cases hheld : Table.get? key cache.entries with
  | none => rfl
  | some entry => simp [h entry hheld]

@[simp] lemma ttl_get (key : κ) (now : τ) (cache : Cache τ κ ν) :
    (cache.get key now).2.ttl = cache.ttl := by
  rw [get]
  split
  · rfl
  · split <;> rfl

/-- Looking up any key lets an entry be that has not expired. -/
lemma held_get (h : cache.IsFresh key now) (other : κ) :
    (cache.get other now).2.held key = cache.held key := by
  by_cases hkey : key = other
  · -- the entry of the key itself has not expired, so looking it up removes nothing
    rw [← hkey, get_eq_of_fresh h]
  · rw [get]
    split
    · rfl
    · split
      · exact Table.get?_erase_of_ne hkey cache.entries
      · rfl

lemma mem_of_mem_get (h : entry ∈ (cache.get key now).2.entries) : entry ∈ cache.entries := by
  rw [get] at h
  split at h
  · exact h
  · split at h
    · exact (List.mem_filter.1 h).1
    · exact h

/-- A value that is given out was stored under its key. -/
lemma exists_mem_of_get {value : ν} (h : (cache.get key now).1 = some value) :
    ∃ storedAt, (key, ⟨some value, storedAt⟩) ∈ cache.entries := by
  rw [get] at h
  split at h
  · simp at h
  next stored hstored =>
    split at h
    · simp at h
    · obtain ⟨held, storedAt⟩ := stored
      obtain rfl : held = some value := h
      exact ⟨storedAt, Table.mem_of_get?_eq_some hstored⟩

/-- A value that is given out stays in the cache. -/
lemma get_eq_of_some {value : ν} (h : (cache.get key now).1 = some value) :
    cache.get key now = (some value, cache) := by
  rw [get] at h ⊢
  split
  next hheld =>
    rw [hheld] at h
    simp at h
  next stored hheld =>
    rw [hheld] at h
    by_cases hexpired : cache.isExpired now stored = true
    · simp [hexpired] at h
    · simp only [hexpired, Bool.false_eq_true, if_false] at h ⊢
      rw [h]

/-- Looking up a key again gives the same. -/
lemma fst_get_get (key : κ) (now : τ) (cache : Cache τ κ ν) :
    ((cache.get key now).2.get key now).1 = (cache.get key now).1 := by
  cases hheld : Table.get? key cache.entries with
  | none => simp [get, hheld]
  | some stored =>
    by_cases hexpired : cache.isExpired now stored = true
    · simp [get, hheld, hexpired]
    · simp [get, hheld, hexpired]

/-! ### Storing -/

@[simp] lemma ttl_put (key : κ) (value : Option ν) (now : τ) (cache : Cache τ κ ν) :
    (cache.put key value now).ttl = cache.ttl :=
  rfl

@[simp] lemma held_put_self (key : κ) (value : Option ν) (now : τ) (cache : Cache τ κ ν) :
    (cache.put key value now).held key = some ⟨value, now⟩ :=
  Table.get?_put_self key _ _

/-- What is stored does not expire in the very moment in which it is stored. -/
def LastsAt (cache : Cache τ κ ν) (now : τ) : Prop :=
  ¬ cache.ttl ≤ now - now

/-- What was just stored is found. -/
lemma get_put_self (h : cache.LastsAt now) (key : κ) (value : Option ν) :
    (cache.put key value now).get key now = (value, cache.put key value now) := by
  have hfresh : (cache.put key value now).IsFresh key now := by
    intro stored hstored
    rw [held_put_self] at hstored
    obtain rfl := Option.some.inj hstored
    exact decide_eq_false h
  rw [get_eq_of_fresh hfresh, held_put_self]
  rfl

/-- What was just stored is found, or has expired at once. -/
lemma get_put_self_cases (key : κ) (value : Option ν) (now : τ) (cache : Cache τ κ ν) :
    ((cache.put key value now).get key now).1 = value ∨
      ((cache.put key value now).get key now).1 = none := by
  by_cases hlasts : cache.LastsAt now
  · exact Or.inl (by rw [get_put_self hlasts])
  · have hexpired : (cache.put key value now).isExpired now ⟨value, now⟩ = true :=
      decide_eq_true (not_not.1 hlasts)
    have hheld : Table.get? key (cache.put key value now).entries = some ⟨value, now⟩ :=
      held_put_self key value now cache
    exact Or.inr (by simp [get, hheld, hexpired])

/-- Storing under another key lets an entry be that has not expired. -/
lemma held_put_of_ne (hkey : key ≠ other) (h : cache.IsFresh key now) (value : Option ν) :
    (cache.put other value now).held key = cache.held key := by
  rw [held, put, Table.get?_put_of_ne hkey]
  exact Table.get?_filter fun entry hentry => by rw [h entry hentry]; rfl

/-- What is held after storing was stored just now, or held before. -/
lemma mem_of_mem_put {value : Option ν} (h : entry ∈ (cache.put key value now).entries) :
    entry = (key, ⟨value, now⟩) ∨ entry ∈ cache.entries :=
  (Table.mem_of_mem_put h).imp_right fun hlive => (List.mem_filter.1 hlive).1

end Cache

/-- With exact time, what is stored lasts if the time to live is positive. -/
lemma Cache.lastsAt_of_pos {τ κ ν : Type} [AddGroup τ] [Preorder τ] [DecidableLE τ] [DecidableEq κ]
    {cache : Cache τ κ ν} (h : 0 < cache.ttl) (now : τ) : cache.LastsAt now := by
  rw [LastsAt, sub_self]
  exact not_le_of_gt h

end ProjectCheck
