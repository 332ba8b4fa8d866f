import Mathlib.Algebra.Order.Ring.Int
import Mathlib.Data.List.Induction
import ProjectCheck.Proofs.Cache.Life
import ProjectCheck.Proofs.Manifest.World

/-!
# One sandbox alone

Manifests are loaded again and again, while files are written and removed, time passes and what is
remembered is forgotten.  What this means for one sandbox is told by a machine that knows this
sandbox alone: the time, the files and the manifest that was read last (`Outlook`).  The world
follows it (`World.outlook_after`), whatever else happens there.
-/

namespace ProjectCheck.Manifest

variable {τ : Type} [AddCommGroup τ] [LinearOrder τ]

/-! ## Histories -/

namespace World

/-- Loads the manifest that counts for a sandbox. -/
def load (path : String) (sandbox : Option String) (w : World τ) :
    Except Interruption Manifest × World τ :=
  let run := (Manifest.of (some w.client) path sandbox).runIn w.session
  (run.1, { w with session := run.2 })

/-- Loading asks for the manifest file of a sandbox and for nothing else. -/
def ReadsOnLoad (path sandbox : String) (w : World τ) : Prop :=
  (w.load path (some sandbox)).2.session.journal = .read sandbox path :: w.session.journal

/-- Loading asks for nothing. -/
def QuietOnLoad (path sandbox : String) (w : World τ) : Prop :=
  (w.load path (some sandbox)).2.session.journal = w.session.journal

end World

/-- One thing that happens to an analyser that loads manifests. -/
inductive Event (τ : Type) [Zero τ] [LE τ] where
  | load (sandbox : Option String)
  | change (c : Change τ)

namespace Event

/-- The world after an event. -/
def after (path : String) : Event τ → World τ → World τ
  | load sandbox, w => (w.load path sandbox).2
  | change c, w => c.after w

/-- The world after a history. -/
def afterAll (path : String) (history : List (Event τ)) (w : World τ) : World τ :=
  history.foldl (fun w e => e.after path w) w

@[simp] lemma afterAll_nil (path : String) (w : World τ) : afterAll path [] w = w :=
  rfl

@[simp] lemma afterAll_concat (path : String) (history : List (Event τ)) (e : Event τ)
    (w : World τ) : afterAll path (history ++ [e]) w = e.after path (afterAll path history w) := by
  simp [afterAll]

/-- Whether an event makes an analyser forget a sandbox. -/
def Forgets (sandbox : String) : Event τ → Prop
  | load _ => False
  | change c => c.Forgets sandbox

/-- Whether an event concerns a sandbox. -/
def Concerns (sandbox : String) : Event τ → Prop
  | load place => place = some sandbox
  | change c => c.Concerns sandbox

instance (sandbox : String) : (e : Event τ) → Decidable (e.Concerns sandbox)
  | load place => inferInstanceAs (Decidable (place = some sandbox))
  | change c => inferInstanceAs (Decidable (c.Concerns sandbox))

end Event

/-! ## One sandbox alone -/

/-- What can be seen of a world from one sandbox: the time, how long a manifest is remembered, the
files, and the manifest that is remembered, with the time at which it was read. -/
structure Outlook (τ : Type) where
  now : τ
  ttl : τ
  folder : String → Option String
  recent : Option (Manifest × τ)

namespace Outlook

/-- What is remembered, once more time may have passed. -/
def lasting (ttl now : τ) (recent : Option (Manifest × τ)) : Option (Manifest × τ) :=
  recent.filter fun known => !decide (ttl ≤ now - known.2)

/-- What is remembered after a load. -/
def loaded (path : String) (o : Outlook τ) : Option (Manifest × τ) :=
  match o.recent with
  | some known => some known
  | none =>
    match ofFile (o.folder path) with
    | .ok m => lasting o.ttl o.now (some (m, o.now))
    | .error _ => none

/-- What a load gives. -/
def answer (path : String) (o : Outlook τ) : Except Interruption Manifest :=
  match o.recent with
  | some known => .ok known.1
  | none => ofFile (o.folder path)

/-- What is seen from a sandbox after an event. -/
def after (path sandbox : String) (o : Outlook τ) : Event τ → Outlook τ
  | .load place => if place = some sandbox then { o with recent := o.loaded path } else o
  | .change (.invalidate removed) =>
    if removed = none ∨ removed = some sandbox then { o with recent := none } else o
  | .change (.wait span) =>
    { o with now := o.now + span, recent := lasting o.ttl (o.now + span) o.recent }
  | .change (.write place path content) =>
    if place = sandbox then { o with folder := Function.update o.folder path content } else o

end Outlook

namespace World

/-- The manifest that is remembered of a sandbox, with the time at which it was read. -/
def recent (sandbox : String) (w : World τ) : Option (Manifest × τ) :=
  (w.session.manifests.live sandbox w.session.now).bind fun entry =>
    entry.value.map (·, entry.storedAt)

/-- What can be seen of a world from a sandbox. -/
def outlook (sandbox : String) (w : World τ) : Outlook τ where
  now := w.session.now
  ttl := w.session.manifests.ttl
  folder := w.files sandbox
  recent := w.recent sandbox

/-- Looking up a sandbox gives what is remembered of it. -/
lemma fst_get_manifests (sandbox : String) (w : World τ) :
    (w.session.manifests.get sandbox w.session.now).1 = (w.recent sandbox).map Prod.fst := by
  rw [Cache.fst_get, recent]
  cases w.session.manifests.live sandbox w.session.now with
  | none => rfl
  | some entry => cases hvalue : entry.value <;> simp [hvalue]

/-! ### Loading -/

/-- A manifest that is remembered is given out, and nothing changes. -/
lemma load_of_recent {path sandbox : String} {w : World τ} {known : Manifest × τ}
    (h : w.recent sandbox = some known) : w.load path (some sandbox) = (.ok known.1, w) := by
  have hget : (w.session.manifests.get sandbox w.session.now).1 = some known.1 := by
    rw [fst_get_manifests, h]
    rfl
  rw [load, of_some, runIn_load_of_remembered w.client path hget, Cache.get_eq_of_some hget]

/-- A manifest that is not remembered is read, and what the file says is given out and stored. -/
lemma load_of_forgotten (path : String) {sandbox : String} {w : World τ}
    (h : w.recent sandbox = none) :
    let looked := (w.session.manifests.get sandbox w.session.now).2
    let journal := .read sandbox path :: w.session.journal
    (w.load path (some sandbox)).1 = ofFile (w.files sandbox path) ∧
      ∃ log, (w.load path (some sandbox)).2 = { w with session := { w.session with
        journal, log
        manifests := match ofFile (w.files sandbox path) with
          | .ok m => looked.put sandbox (some m) w.session.now
          | .error _ => looked } } := by
  intro looked journal
  have hget : (w.session.manifests.get sandbox w.session.now).1 = none := by
    rw [fst_get_manifests, h]
    rfl
  have hsaid := ofContent_text sandbox path (w.files sandbox path)
  rw [load, of_some, runIn_load_of_forgotten w.client path hget, contentOf_read, content, ← hsaid]
  rcases hread : ofContent sandbox path ((w.files sandbox path).map .text) with why | ⟨m, entry⟩
  · rw [runIn_store_of_error hread]
    exact ⟨rfl, w.session.log, rfl⟩
  · rw [runIn_store_of_ok hread]
    exact ⟨rfl, _, rfl⟩

/-- Loading takes no time. -/
@[simp] lemma now_load (path : String) (sandbox : Option String) (w : World τ) :
    (w.load path sandbox).2.session.now = w.session.now := by
  cases sandbox with
  | none => rfl
  | some sandbox =>
    cases hrecent : w.recent sandbox with
    | some known => rw [load_of_recent hrecent]
    | none =>
      obtain ⟨-, log, hload⟩ := load_of_forgotten path hrecent
      rw [hload]

/-- Loading stores each key once, as the manifests had it before. -/
lemma keysDistinct_load {path : String} {sandbox : Option String} {w : World τ}
    (h : w.session.manifests.KeysDistinct) :
    (w.load path sandbox).2.session.manifests.KeysDistinct := by
  cases sandbox with
  | none => exact h
  | some sandbox =>
    cases hrecent : w.recent sandbox with
    | some known =>
      rw [load_of_recent hrecent]
      exact h
    | none =>
      obtain ⟨-, log, hload⟩ := load_of_forgotten path hrecent
      rw [hload]
      cases ofFile (w.files sandbox path) with
      | ok m => exact (h.get sandbox _).put sandbox _ _
      | error why => exact h.get sandbox _

end World

/-- No event stores a sandbox twice. -/
lemma Event.keysDistinct_after (path : String) (e : Event τ) {w : World τ}
    (h : w.session.manifests.KeysDistinct) :
    (e.after path w).session.manifests.KeysDistinct := by
  cases e with
  | load sandbox => exact World.keysDistinct_load h
  | change c =>
    cases c with
    | invalidate removed => exact h.invalidate removed
    | wait span => exact h
    | write place file content => exact h

lemma Event.keysDistinct_afterAll (path : String) (history : List (Event τ)) {w : World τ}
    (h : w.session.manifests.KeysDistinct) :
    (afterAll path history w).session.manifests.KeysDistinct := by
  induction history using List.reverseRecOn with
  | nil => exact h
  | append_singleton history e ih =>
    rw [afterAll_concat]
    exact e.keysDistinct_after path ih

/-! ## The world follows the machine -/

/-- Leaving out what has expired leaves out what does not last. -/
lemma Outlook.lasting_bind (cache : Cache τ String Manifest) (now : τ)
    (entry : Option (Stored τ Manifest)) :
    ((entry.filter fun stored => !cache.isExpired now stored).bind fun stored =>
        stored.value.map (·, stored.storedAt)) =
      lasting cache.ttl now (entry.bind fun stored => stored.value.map (·, stored.storedAt)) := by
  cases entry with
  | none => rfl
  | some stored =>
    obtain ⟨value, storedAt⟩ := stored
    cases value with
    | none => simp [lasting]
    | some m =>
      rw [lasting, Option.filter_some]
      by_cases h : cache.ttl ≤ now - storedAt
      · simp [Cache.isExpired, h, Option.filter_some]
      · simp [Cache.isExpired, h, Option.filter_some]

variable [IsOrderedAddMonoid τ]

namespace World

lemma outlook_load_self (path sandbox : String) (w : World τ) :
    (w.load path (some sandbox)).2.outlook sandbox =
      { w.outlook sandbox with recent := (w.outlook sandbox).loaded path } := by
  cases hrecent : w.recent sandbox with
  | some known =>
    have hloaded : (w.outlook sandbox).loaded path = some known := by
      rw [Outlook.loaded, outlook, hrecent]
    rw [load_of_recent hrecent, hloaded, ← hrecent]
    rfl
  | none =>
    obtain ⟨-, log, hload⟩ := load_of_forgotten path hrecent
    have hloaded : (w.outlook sandbox).loaded path =
        match ofFile (w.files sandbox path) with
        | .ok m => Outlook.lasting w.session.manifests.ttl w.session.now (some (m, w.session.now))
        | .error _ => none := by
      simp only [Outlook.loaded, outlook, hrecent]
    rw [hload, hloaded]
    cases ofFile (w.files sandbox path) with
    | ok m =>
      simp only [outlook, recent, Cache.ttl_put, Cache.live_put_self, Outlook.lasting_bind,
        Cache.ttl_get]
      rfl
    | error why =>
      rw [recent] at hrecent
      simp only [outlook, recent, Cache.ttl_get, Cache.live_get le_rfl, hrecent]

lemma outlook_load_other {path sandbox : String} {place : Option String}
    (hplace : place ≠ some sandbox) {w : World τ} (h : w.session.manifests.KeysDistinct) :
    (w.load path place).2.outlook sandbox = w.outlook sandbox := by
  cases place with
  | none => rfl
  | some other =>
    have hne : sandbox ≠ other := fun heq => hplace (congrArg some heq.symm)
    cases hrecent : w.recent other with
    | some known => rw [load_of_recent hrecent]
    | none =>
      obtain ⟨-, log, hload⟩ := load_of_forgotten path hrecent
      rw [hload]
      cases ofFile (w.files other path) with
      | ok m =>
        simp only [outlook, recent, Cache.ttl_put, Cache.ttl_get,
          Cache.live_put_of_ne (h.get other _) hne le_rfl, Cache.live_get le_rfl]
      | error why => simp only [outlook, recent, Cache.ttl_get, Cache.live_get le_rfl]

/-- **One sandbox alone.**  What is seen from a sandbox after an event is what the machine of that
sandbox says, whatever happens elsewhere. -/
theorem outlook_after (path sandbox : String) (e : Event τ) {w : World τ}
    (h : w.session.manifests.KeysDistinct) :
    (e.after path w).outlook sandbox = (w.outlook sandbox).after path sandbox e := by
  cases e with
  | load place =>
    rw [Event.after, Outlook.after]
    by_cases hplace : place = some sandbox
    · rw [if_pos hplace, hplace]
      exact outlook_load_self path sandbox w
    · rw [if_neg hplace]
      exact outlook_load_other hplace h
  | change c =>
    cases c with
    | invalidate removed =>
      simp only [Event.after, Change.after, Outlook.after, outlook, recent, Session.invalidate,
        Cache.ttl_invalidate, Cache.live_invalidate]
      split <;> rfl
    | wait span =>
      have hlater : w.session.now ≤ w.session.now + span := le_add_of_nonneg_right span.2
      simp only [Event.after, Change.after, Outlook.after, outlook, recent, Session.atTime,
        Cache.live_of_le hlater, Outlook.lasting_bind]
    | write place file content =>
      simp only [Event.after, Change.after, Outlook.after, outlook]
      by_cases hplace : place = sandbox
      · rw [if_pos hplace, hplace, Function.update_self]
        rfl
      · rw [if_neg hplace, Function.update_of_ne (Ne.symm hplace)]
        rfl

end World

/-! ### What events leave -/

namespace Outlook

variable {path sandbox : String} {o : Outlook τ} {e : Event τ}

omit [IsOrderedAddMonoid τ] in
lemma ttl_after : (o.after path sandbox e).ttl = o.ttl := by
  cases e with
  | load place =>
    rw [after]
    split <;> rfl
  | change c =>
    cases c with
    | wait span => rfl
    | invalidate removed =>
      rw [after]
      split <;> rfl
    | write place file content =>
      rw [after]
      split <;> rfl

/-- Time does not go back. -/
lemma now_le_after : o.now ≤ (o.after path sandbox e).now := by
  cases e with
  | load place =>
    rw [after]
    split <;> exact le_rfl
  | change c =>
    cases c with
    | wait span => exact le_add_of_nonneg_right span.2
    | invalidate removed =>
      rw [after]
      split <;> exact le_rfl
    | write place file content =>
      rw [after]
      split <;> exact le_rfl

omit [IsOrderedAddMonoid τ] in
/-- What does not concern a sandbox is not seen from there. -/
lemma after_of_not_concerns (h : ¬ e.Concerns sandbox) : o.after path sandbox e = o := by
  cases e with
  | load place => exact if_neg h
  | change c =>
    cases c with
    | invalidate removed => exact if_neg h
    | wait span => exact absurd trivial h
    | write place file content => exact if_neg h

end Outlook

namespace World

/-! ### What loading does, seen from its sandbox -/

omit [IsOrderedAddMonoid τ] in
lemma fst_load (path sandbox : String) (w : World τ) :
    (w.load path (some sandbox)).1 = (w.outlook sandbox).answer path := by
  cases hrecent : w.recent sandbox with
  | some known => simp only [load_of_recent hrecent, Outlook.answer, outlook, hrecent]
  | none => simp only [(load_of_forgotten path hrecent).1, Outlook.answer, outlook, hrecent]

omit [IsOrderedAddMonoid τ] in
lemma quietOnLoad_iff {path sandbox : String} {w : World τ} :
    w.QuietOnLoad path sandbox ↔ w.recent sandbox ≠ none := by
  cases hrecent : w.recent sandbox with
  | some known => simp [QuietOnLoad, load_of_recent hrecent]
  | none =>
    obtain ⟨-, log, hload⟩ := load_of_forgotten path hrecent
    simp [QuietOnLoad, hload]

omit [IsOrderedAddMonoid τ] in
lemma readsOnLoad_iff {path sandbox : String} {w : World τ} :
    w.ReadsOnLoad path sandbox ↔ w.recent sandbox = none := by
  cases hrecent : w.recent sandbox with
  | some known => simp [ReadsOnLoad, load_of_recent hrecent]
  | none =>
    obtain ⟨-, log, hload⟩ := load_of_forgotten path hrecent
    simp [ReadsOnLoad, hload]

end World

end ProjectCheck.Manifest
