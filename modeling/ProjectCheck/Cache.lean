import ProjectCheck.Table

/-!
# Caches with expiry

A cache keeps each value together with the time at which it was stored.  An entry has expired once
its age reaches the time to live of the cache, so with a time to live of zero an entry has expired
at once.  Looking up an expired entry removes it, and storing removes all of them; neither can be
told from the answers, since an expired entry is never given out.

Time is any type with a difference and an order.  The empty value can be stored too: it takes part
in expiry like any other value, and is given out as nothing.
-/

namespace ProjectCheck

/-- A value, or nothing, and the time at which it was stored. -/
structure Stored (τ ν : Type) where
  value : Option ν
  storedAt : τ
deriving Repr

/-- Values under keys, with the times at which they were stored. -/
structure Cache (τ κ ν : Type) where
  ttl : τ
  entries : Table κ (Stored τ ν) := []
deriving Repr

namespace Cache

variable {τ κ ν : Type}

/-- A cache without entries. -/
def empty (ttl : τ) : Cache τ κ ν :=
  { ttl }

/-- The keys that are stored, expired or not. -/
def storedKeys (cache : Cache τ κ ν) : List κ :=
  cache.entries.map (·.1)

variable [Sub τ] [LE τ] [DecidableLE τ]

/-- Whether an entry has expired at a time. -/
def isExpired (cache : Cache τ κ ν) (now : τ) (entry : Stored τ ν) : Bool :=
  decide (cache.ttl ≤ now - entry.storedAt)

/-- How many entries have not expired. -/
def liveCount (cache : Cache τ κ ν) (now : τ) : Nat :=
  (cache.entries.filter fun entry => !cache.isExpired now entry.2).length

variable [DecidableEq κ]

/-- The value under a key that has not expired, and the cache without the key if it has. -/
def get (key : κ) (now : τ) (cache : Cache τ κ ν) : Option ν × Cache τ κ ν :=
  match Table.get? key cache.entries with
  | none => (none, cache)
  | some entry =>
    if cache.isExpired now entry then
      (none, { cache with entries := Table.erase key cache.entries })
    else (entry.value, cache)

/-- Whether there is a value under a key that has not expired, and the cache after looking. -/
def contains (key : κ) (now : τ) (cache : Cache τ κ ν) : Bool × Cache τ κ ν :=
  let (value, after) := cache.get key now
  (value.isSome, after)

/-- Stores a value, or nothing, under a key and removes the entries that have expired. -/
def put (key : κ) (value : Option ν) (now : τ) (cache : Cache τ κ ν) : Cache τ κ ν :=
  let live := cache.entries.filter fun entry => !cache.isExpired now entry.2
  { cache with entries := Table.put key ⟨value, now⟩ live }

/-- Removes the entry of a key, or all entries. -/
def invalidate (key : Option κ) (cache : Cache τ κ ν) : Cache τ κ ν :=
  match key with
  | none => { cache with entries := [] }
  | some key => { cache with entries := Table.erase key cache.entries }

end Cache

end ProjectCheck
