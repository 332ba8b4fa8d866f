import Mathlib.Algebra.Order.Group.Int
import Mathlib.Data.Finset.Card
import Mathlib.Data.Finset.Filter
import Mathlib.Data.List.Induction
import Mathlib.Data.List.Nodup
import ProjectCheck.Proofs.Cache.Life

/-!
# A cache and the log of what was asked of it

A log keeps every request with its time and deletes nothing.  The entry that counts for a key is the
last one stored under it, unless it was removed since (`LastStored`), and it counts until it expires
(`Counts`).  A cache throws entries away in three places, and none of them can be told from its
answers: after any log, what is alive in it is what counts by the log (`live_afterAll`), so its
answers are those of the log (`answers_from_log`).

The run follows from the step (`live_after`): a request takes away what is stored under a key,
stores something there, or changes nothing that is alive.
-/

namespace ProjectCheck

namespace Cache

variable {τ κ ν : Type}

/-! ## Requests -/

/-- What may be asked of a cache. -/
inductive Request (κ ν : Type) where
  | put (key : κ) (value : Option ν)
  | get (key : κ)
  | contains (key : κ)
  | count
  | invalidate (key : Option κ)

/-- Whether a request takes away what was stored under a key, be it by storing something else. -/
def Request.Replaces (key : κ) : Request κ ν → Prop
  | put other _ => other = key
  | invalidate removed => removed = none ∨ removed = some key
  | get _ => False
  | contains _ => False
  | count => False

/-- Requests with their times, in the order in which they were made. -/
abbrev Log (τ κ ν : Type) := List (τ × Request κ ν)

/-- The time of a log never goes back, nor does it before a later time. -/
def Log.IsUntil (log : Log τ κ ν) [LE τ] (now : τ) : Prop :=
  (log.map Prod.fst ++ [now]).Pairwise (· ≤ ·)

/-- The last thing stored under a key, and nothing took it away since. -/
def LastStored (log : Log τ κ ν) (key : κ) (entry : Stored τ ν) : Prop :=
  ∃ before since, log = before ++ (entry.storedAt, .put key entry.value) :: since ∧
    ∀ e ∈ since, ¬ e.2.Replaces key

/-- By the log, a value counts for a key at a time: it was stored last, and it has not expired. -/
def Counts [Sub τ] [LT τ] (ttl : τ) (log : Log τ κ ν) (now : τ) (key : κ) (value : Option ν) :
    Prop :=
  ∃ storedAt, LastStored log key ⟨value, storedAt⟩ ∧ now - storedAt < ttl

lemma not_lastStored_nil {key : κ} {entry : Stored τ ν} : ¬ LastStored [] key entry := by
  rintro ⟨before, since, hlog, -⟩
  simp at hlog

/-- A request behind a log lets the last thing stored be, or stores the last thing itself. -/
lemma lastStored_concat {log : Log τ κ ν} {e : τ × Request κ ν} {key : κ} {entry : Stored τ ν} :
    LastStored (log ++ [e]) key entry ↔
      (¬ e.2.Replaces key ∧ LastStored log key entry) ∨
        e = (entry.storedAt, .put key entry.value) := by
  constructor
  · rintro ⟨before, since, hlog, hkept⟩
    rcases List.eq_nil_or_concat since with rfl | ⟨since, last, rfl⟩
    · obtain ⟨-, hlast⟩ := List.append_inj' hlog rfl
      exact Or.inr (List.singleton_inj.1 hlast)
    · rw [List.concat_eq_append, ← List.cons_append, ← List.append_assoc] at hlog
      obtain ⟨rfl, hlast⟩ := List.append_inj' hlog rfl
      obtain rfl := List.singleton_inj.1 hlast
      refine Or.inl ⟨hkept e (by simp), before, since, rfl, fun other hother => ?_⟩
      exact hkept other (by simp [hother])
  · rintro (⟨hkeeps, before, since, rfl, hkept⟩ | rfl)
    · refine ⟨before, since ++ [e], by simp, fun other hother => ?_⟩
      rcases List.mem_append.1 hother with hold | hlast
      · exact hkept other hold
      · rwa [List.mem_singleton.1 hlast]
    · exact ⟨log, [], rfl, by simp⟩

/-! ## What a request does -/

variable [DecidableEq κ]

section

variable [Sub τ] [LE τ] [DecidableLE τ]

/-- A cache after a request. -/
def after (cache : Cache τ κ ν) (e : τ × Request κ ν) : Cache τ κ ν :=
  match e.2 with
  | .put key value => cache.put key value e.1
  | .get key => (cache.get key e.1).2
  | .contains key => (cache.contains key e.1).2
  | .count => cache
  | .invalidate key => cache.invalidate key

/-- A new cache after all requests of a log. -/
def afterAll (ttl : τ) (log : Log τ κ ν) : Cache τ κ ν :=
  log.foldl after (empty ttl)

lemma afterAll_concat (ttl : τ) (log : Log τ κ ν) (e : τ × Request κ ν) :
    afterAll ttl (log ++ [e]) = (afterAll ttl log).after e := by
  rw [afterAll, List.foldl_concat, afterAll]

@[simp] lemma ttl_after (cache : Cache τ κ ν) (e : τ × Request κ ν) :
    (cache.after e).ttl = cache.ttl := by
  obtain ⟨now, request⟩ := e
  cases request with
  | put key value => rfl
  | get key => exact ttl_get key now cache
  | contains key => exact ttl_get key now cache
  | count => rfl
  | invalidate key => exact ttl_invalidate key cache

lemma ttl_afterAll (ttl : τ) (log : Log τ κ ν) : (afterAll ttl log).ttl = ttl := by
  induction log using List.reverseRecOn with
  | nil => rfl
  | append_singleton log e ih => rw [afterAll_concat, ttl_after, ih]

lemma KeysDistinct.after {cache : Cache τ κ ν} (h : cache.KeysDistinct) (e : τ × Request κ ν) :
    (cache.after e).KeysDistinct := by
  obtain ⟨now, request⟩ := e
  cases request with
  | put key value => exact h.put key value now
  | get key => exact h.get key now
  | contains key => exact h.get key now
  | count => exact h
  | invalidate key => exact h.invalidate key

lemma keysDistinct_afterAll (ttl : τ) (log : Log τ κ ν) : (afterAll ttl log).KeysDistinct := by
  induction log using List.reverseRecOn with
  | nil => exact keysDistinct_empty ttl
  | append_singleton log e ih => exact afterAll_concat ttl log e ▸ ih.after e

/-- How many entries are alive is how many keys have one. -/
lemma exists_card_eq_liveCount {cache : Cache τ κ ν} (h : cache.KeysDistinct) (now : τ) :
    ∃ keys : Finset κ, (∀ key, key ∈ keys ↔ ∃ entry, cache.live key now = some entry) ∧
      cache.liveCount now = keys.card := by
  set keys := Table.keys (cache.entries.filter fun entry => !cache.isExpired now entry.2)
  have hnodup : keys.Nodup := Table.nodup_keys_filter _ h
  refine ⟨⟨keys, hnodup⟩, fun key => ?_, (List.length_map _).symm⟩
  simp only [Finset.mem_mk, Multiset.mem_coe, keys, Table.keys, List.mem_map, List.mem_filter, live,
    Option.filter_eq_some_iff, held, Table.get?_eq_some_iff h]
  constructor
  · rintro ⟨⟨other, entry⟩, hentry, rfl⟩
    exact ⟨entry, hentry⟩
  · rintro ⟨entry, hentry⟩
    exact ⟨(key, entry), hentry, rfl⟩

/-- Behind storing, nothing is stored under another key that has expired. -/
lemma isExpired_of_mem_put {cache : Cache τ κ ν} {key : κ} {value : Option ν} {now : τ}
    {entry : κ × Stored τ ν} (h : entry ∈ (cache.put key value now).entries)
    (hkey : entry.1 ≠ key) : cache.isExpired now entry.2 = false := by
  rcases Table.mem_of_mem_put h with rfl | hlive
  · contradiction
  · simpa using (List.mem_filter.1 hlive).2

end

/-! ## The cache follows the log -/

variable [AddCommGroup τ] [LinearOrder τ] [IsOrderedAddMonoid τ]
variable {cache : Cache τ κ ν} {key : κ} {now later ttl : τ} {entry : Stored τ ν}
  {log : Log τ κ ν}

/-- **One request.**  What is alive behind a request was alive before it and is not taken away, or
is what the request has stored, unless it has expired. -/
lemma live_after (hdistinct : cache.KeysDistinct) (request : Request κ ν) (h : now ≤ later) :
    (cache.after (now, request)).live key later = some entry ↔
      (¬ request.Replaces key ∧ cache.live key later = some entry) ∨
        ((now, request) = (entry.storedAt, .put key entry.value) ∧
          later - entry.storedAt < cache.ttl) := by
  cases request with
  | put other value =>
    by_cases hkey : key = other
    · subst hkey
      obtain ⟨found, storedAt⟩ := entry
      simp only [after, live_put_self, Option.filter_eq_some_iff, Option.some.injEq, isExpired,
        Stored.mk.injEq, Request.Replaces, not_true_eq_false, false_and, false_or, Prod.mk.injEq,
        Request.put.injEq, true_and, Bool.not_eq_true', decide_eq_false_iff_not, not_le]
      tauto
    · simp only [after, live_put_of_ne hdistinct hkey h, Request.Replaces, Prod.mk.injEq,
        Request.put.injEq, Ne.symm hkey, false_and, and_false, or_false, not_false_eq_true,
        true_and]
  | get other =>
    simp only [after, live_get h, Request.Replaces, not_false_eq_true, true_and, Prod.mk.injEq,
      reduceCtorEq, and_false, false_and, or_false]
  | contains other =>
    simp only [after, contains, live_get h, Request.Replaces, not_false_eq_true, true_and,
      Prod.mk.injEq, reduceCtorEq, and_false, false_and, or_false]
  | count =>
    simp only [after, Request.Replaces, not_false_eq_true, true_and, Prod.mk.injEq, reduceCtorEq,
      and_false, false_and, or_false]
  | invalidate removed =>
    simp only [after, live_invalidate, Request.Replaces, Prod.mk.injEq, reduceCtorEq, and_false,
      false_and, or_false]
    split <;> simp [*]

omit [AddCommGroup τ] [IsOrderedAddMonoid τ] [DecidableEq κ] in
/-- The last request of a log was made before the time up to which the log goes, and so were those
before it. -/
lemma Log.IsUntil.of_concat {request : Request κ ν} (h : (log ++ [(now, request)]).IsUntil later) :
    log.IsUntil later ∧ now ≤ later := by
  rw [IsUntil, List.map_append, List.pairwise_append] at h
  obtain ⟨hpairs, -, hlater⟩ := h
  refine ⟨List.pairwise_append.2 ⟨(List.pairwise_append.1 hpairs).1, by simp, ?_⟩, ?_⟩
  · exact fun time htime last hlast => hlater time (List.mem_append_left _ htime) last hlast
  · exact hlater now (by simp) later (by simp)

/-- **A whole log.**  What is alive in a cache is what its log has stored last and nothing took
away, if it has not expired. -/
theorem live_afterAll (h : log.IsUntil later) :
    (afterAll ttl log).live key later = some entry ↔
      LastStored log key entry ∧ later - entry.storedAt < ttl := by
  induction log using List.reverseRecOn with
  | nil =>
    have hnothing : (afterAll ttl ([] : Log τ κ ν)).live key later = none := rfl
    simp [hnothing, not_lastStored_nil]
  | append_singleton log e ih =>
    obtain ⟨hbefore, hlast⟩ := h.of_concat
    rw [afterAll_concat, live_after (keysDistinct_afterAll ttl log) e.2 hlast, ih hbefore,
      lastStored_concat, ttl_afterAll]
    tauto

/-- What a cache says of a key is what counts for it by the log, or nothing where nothing does. -/
lemma fst_get_afterAll (h : log.IsUntil now) (key : κ) (answer : Option ν) :
    ((afterAll ttl log).get key now).1 = answer ↔
      Counts ttl log now key answer ∨ (answer = none ∧ ¬ ∃ value, Counts ttl log now key value) := by
  rw [fst_get]
  have hlive : ∀ entry, (afterAll ttl log).live key now = some entry ↔ _ :=
    fun entry => live_afterAll h
  cases hfound : (afterAll ttl log).live key now with
  | none =>
    have hnone : ∀ value, ¬ Counts ttl log now key value := by
      rintro value ⟨storedAt, hcounts⟩
      simpa [hfound] using (hlive ⟨value, storedAt⟩).2 hcounts
    simp only [Option.bind_none, hnone, false_or, exists_false, not_false_eq_true, and_true]
    exact eq_comm
  | some found =>
    have hcounts : Counts ttl log now key found.value := ⟨found.storedAt, (hlive found).1 hfound⟩
    have honly : ∀ value, Counts ttl log now key value → found.value = value := by
      rintro value ⟨storedAt, hother⟩
      have hsame := (hlive ⟨value, storedAt⟩).2 hother
      rw [hfound, Option.some.injEq] at hsame
      rw [hsame]
    rw [Option.bind_some]
    constructor
    · rintro rfl
      exact Or.inl hcounts
    · rintro (hother | ⟨-, hnone⟩)
      · exact honly answer hother
      · exact absurd ⟨_, hcounts⟩ hnone

/-- **A cache answers as its log does.**  Whatever was asked of a cache, at times that never go
back: it gives the value that was stored last under a key, if that has not expired and was not
removed since, and nothing otherwise; it says that there is a value under a key exactly if it would
give one; it counts the keys for which something was stored last, has not expired and was not
removed.  Storing leaves nothing that has expired under any other key. -/
theorem answers_from_log (ttl : τ) (log : Log τ κ ν) (now : τ) (h : log.IsUntil now) :
    (∀ key answer, ((afterAll ttl log).get key now).1 = answer ↔
      Counts ttl log now key answer ∨
        (answer = none ∧ ¬ ∃ value, Counts ttl log now key value)) ∧
    (∀ key, ((afterAll ttl log).contains key now).1 = true ↔
      ((afterAll ttl log).get key now).1 ≠ none) ∧
    (∃ keys : Finset κ, (∀ key, key ∈ keys ↔ ∃ value, Counts ttl log now key value) ∧
      (afterAll ttl log).liveCount now = keys.card) ∧
    ∀ key value, ∀ entry ∈ ((afterAll ttl log).put key value now).entries, entry.1 ≠ key →
      now - entry.2.storedAt < ttl := by
  refine ⟨fst_get_afterAll h, fun key => ?contains, ?count, fun key value entry hentry hkey => ?put⟩
  case contains => rw [contains, Option.isSome_iff_ne_none]
  case count =>
    obtain ⟨keys, hkeys, hcount⟩ := exists_card_eq_liveCount (keysDistinct_afterAll ttl log) now
    refine ⟨keys, fun key => (hkeys key).trans ?_, hcount⟩
    simp only [live_afterAll h]
    constructor
    · rintro ⟨entry, hentry⟩
      exact ⟨entry.value, entry.storedAt, hentry⟩
    · rintro ⟨value, storedAt, hentry⟩
      exact ⟨⟨value, storedAt⟩, hentry⟩
  case put =>
    have hfresh := isExpired_of_mem_put hentry hkey
    rwa [isExpired, ttl_afterAll, decide_eq_false_iff_not, not_le] at hfresh

/-- With a time to live of ten, an entry is gone after exactly ten; the one that was stored anew is
there, though looking it up had removed its former entry. -/
theorem answers_at_expiry :
    let log : Log Int String Nat :=
      [(0, .put "old" (some 1)), (0, .put "new" (some 2)), (10, .get "new"),
        (10, .put "new" (some 3)), (12, .contains "old")]
    log.IsUntil 19 ∧ ((afterAll 10 log).get "old" 19).1 = none ∧
      ((afterAll 10 log).get "new" 19).1 = some 3 ∧ (afterAll 10 log).liveCount 19 = 1 := by
  intro log
  have huntil : log.IsUntil 19 := by simp [log, Log.IsUntil]
  obtain ⟨hget, -, -, -⟩ := answers_from_log 10 log 19 huntil
  have hold : ¬ ∃ value, Counts 10 log 19 "old" value := by
    rintro ⟨value, storedAt, ⟨before, since, hlog, -⟩, hsoon⟩
    have hmem : (storedAt, Request.put "old" value) ∈ log := by simp [hlog]
    have hstored : storedAt = 0 ∧ value = some 1 := by simpa [log] using hmem
    omega
  have hnew : Counts 10 log 19 "new" (some 3) := by
    refine ⟨10, ⟨log.take 3, [(12, .contains "old")], rfl, ?_⟩, by decide⟩
    simp [Request.Replaces]
  exact ⟨huntil, (hget "old" none).2 (.inr ⟨rfl, hold⟩), (hget "new" (some 3)).2 (.inl hnew),
    by decide⟩

end Cache

end ProjectCheck
