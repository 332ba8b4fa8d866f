import ProjectCheck.Proofs.Session.Answers

/-!
# Steps that agree

Two steps agree under a relation between sessions if, from related sessions, they come to the same
outcome and leave related sessions.  Steps that are built alike from steps that agree do so
themselves, so one walk through a procedure shows what all relations have in common that the
primitive steps respect:

* with the relation of knowing the same things, that a procedure cannot tell two sessions apart;
* with equality together with an invariant, that a procedure keeps the invariant
  (`Work.Agree.keeps`).
-/

namespace ProjectCheck

namespace Work

variable {τ α β : Type}

/-- From related sessions two steps come to the same outcome and leave related sessions. -/
def Agree (R : Session τ → Session τ → Prop) (p q : Work τ α) : Prop :=
  ∀ ⦃s t⦄, R s t → (p.runIn s).1 = (q.runIn t).1 ∧ R (p.runIn s).2 (q.runIn t).2

/-- A step leaves a session with an invariant if it finds one. -/
def Keeps (I : Session τ → Prop) (p : Work τ α) : Prop :=
  ∀ ⦃s⦄, I s → I (p.runIn s).2

/-- A relation stays when the same things are written to the log. -/
def RespectsLog (R : Session τ → Session τ → Prop) : Prop :=
  ∀ ⦃s t⦄ entries, R s t → R (s.since [] entries) (t.since [] entries)

namespace Agree

variable {R : Session τ → Session τ → Prop} {p q : Work τ α} {f g : α → Work τ β}

protected lemma pure (a : α) : Agree R (pure a : Work τ α) (pure a) :=
  fun _ _ h => ⟨rfl, h⟩

protected lemma throw (why : Interruption) :
    Agree R (throw why : Work τ α) (throw why) :=
  fun _ _ h => ⟨rfl, h⟩

lemma bind (h : Agree R p q) (hnext : ∀ a, Agree R (f a) (g a)) :
    Agree R (p >>= f) (q >>= g) := by
  intro s t hst
  obtain ⟨houtcome, hafter⟩ := h hst
  rw [runIn_bind, runIn_bind]
  rcases hp : p.runIn s with ⟨_ | a, s'⟩ <;> rcases hq : q.runIn t with ⟨_ | b, t'⟩ <;>
    rw [hp, hq] at houtcome hafter
  · exact ⟨congrArg Except.error (Except.error.inj houtcome), hafter⟩
  · simp at houtcome
  · simp at houtcome
  · obtain rfl : a = b := Except.ok.inj houtcome
    exact hnext a hafter

lemma settle (h : Agree R p q) : Agree R (Work.settle p) (Work.settle q) := by
  intro s t hst
  obtain ⟨houtcome, hafter⟩ := h hst
  exact ⟨congrArg Except.ok houtcome, hafter⟩

/-- A choice that is made alike is made between steps that agree. -/
lemma ite {c : Prop} [Decidable c] {p' q' : Work τ α} (hpos : Agree R p q) (hneg : Agree R p' q') :
    Agree R (if c then p else p') (if c then q else q') := by
  by_cases hc : c
  · rwa [if_pos hc, if_pos hc]
  · rwa [if_neg hc, if_neg hc]

lemma note (hlog : RespectsLog R) (entry : LogEntry) :
    Agree R (Work.note entry) (Work.note entry) :=
  fun _ _ hst => ⟨rfl, hlog [entry] hst⟩

/-- Steps that agree under equality of sessions with an invariant keep the invariant. -/
lemma keeps {I : Session τ → Prop} (h : Agree (fun s t => s = t ∧ I s) p q) : Keeps I p :=
  fun _ hs => (h ⟨rfl, hs⟩).2.2

end Agree

namespace Keeps

variable {I : Session τ → Prop} {p : Work τ α}

/-- A step that keeps an invariant agrees with itself. -/
lemma agree (h : Keeps I p) : Agree (fun s t => s = t ∧ I s) p p := by
  rintro s t ⟨rfl, hs⟩
  exact ⟨rfl, rfl, h hs⟩

end Keeps

/-- Steps that only ask agree under a relation that the requests respect, if the answers are the
same. -/
lemma Agree.of_answers {R : Session τ → Session τ → Prop} {p q : Work τ α}
    {outcome₁ outcome₂ : Session τ → Except Interruption α} {calls : List Call}
    (hp : ∀ s, p.Answers s (outcome₁ s) calls) (hq : ∀ s, q.Answers s (outcome₂ s) calls)
    (hsame : ∀ ⦃s t⦄, R s t → outcome₁ s = outcome₂ t)
    (hsince : ∀ ⦃s t⦄ entries others, R s t → R (s.since calls entries) (t.since calls others)) :
    Agree R p q := by
  intro s t hst
  obtain ⟨entries, hp⟩ := hp s
  obtain ⟨others, hq⟩ := hq t
  rw [hp, hq]
  exact ⟨hsame hst, hsince entries others hst⟩

end Work

end ProjectCheck
