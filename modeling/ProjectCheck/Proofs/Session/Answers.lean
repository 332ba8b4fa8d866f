import Mathlib.Tactic.Lemma
import ProjectCheck.Sandbox.Access

/-!
# Running steps of a session

What `Work.runIn` makes of each way to build a step.  A step that is broken off leaves the session
as far as it came, and nothing behind it is done (`runIn_bind`).  Later files run steps with these
equations and never unfold the monad.  `Work.Gives` says that every result of a step has a property.

Most steps of a session change nothing but its journal and its log.  `step.Answers s outcome calls`
says so of a step in a session: it comes to an outcome, and does so after some requests.  What it
writes to the log is left open, since nothing ever reads the log.  Each way to build a step has its
rule, so the requests of a longer step are those of its parts, the latest first.
-/

namespace ProjectCheck

namespace Work

variable {τ α β : Type}

@[simp] lemma runIn_pure (a : α) (s : Session τ) : (pure a : Work τ α).runIn s = (.ok a, s) :=
  rfl

/-- One step after another. -/
lemma runIn_bind (step : Work τ α) (next : α → Work τ β) (s : Session τ) :
    (step >>= next).runIn s =
      match step.runIn s with
      | (.ok a, s') => (next a).runIn s'
      | (.error why, s') => (.error why, s') := by
  change ExceptT.bindCont next (step.runIn s).1 (step.runIn s).2 = _
  rcases step.runIn s with ⟨_ | _, _⟩ <;> rfl

lemma runIn_bind_of_ok {step : Work τ α} {next : α → Work τ β} {s s' : Session τ} {a : α}
    (h : step.runIn s = (.ok a, s')) : (step >>= next).runIn s = (next a).runIn s' := by
  rw [runIn_bind, h]

lemma runIn_bind_of_error {step : Work τ α} {next : α → Work τ β} {s s' : Session τ}
    {why : Interruption} (h : step.runIn s = (.error why, s')) :
    (step >>= next).runIn s = (.error why, s') := by
  rw [runIn_bind, h]

@[simp] lemma runIn_throw (why : Interruption) (s : Session τ) :
    (throw why : Work τ α).runIn s = (.error why, s) :=
  rfl

/-- A step that is settled is never broken off. -/
@[simp] lemma runIn_settle (step : Work τ α) (s : Session τ) :
    (settle step).runIn s = (.ok (step.runIn s).1, (step.runIn s).2) :=
  rfl

/-- What is done behind a settled step goes on from its outcome. -/
lemma runIn_settle_bind (step : Work τ α) (next : Except Interruption α → Work τ β)
    (s : Session τ) :
    (settle step >>= next).runIn s = (next (step.runIn s).1).runIn (step.runIn s).2 :=
  runIn_bind_of_ok (runIn_settle step s)

/-! ## Results -/

/-- Every result that a step gives has a property. -/
def Gives (P : α → Prop) (step : Work τ α) : Prop :=
  ∀ ⦃s a⦄, (step.runIn s).1 = .ok a → P a

namespace Gives

variable {P : α → Prop} {Q : β → Prop} {step : Work τ α} {next : α → Work τ β}

protected lemma pure {a : α} (h : P a) : Gives P (pure a : Work τ α) := by
  rintro s b hb
  rwa [← Except.ok.inj hb]

protected lemma throw (why : Interruption) : Gives P (throw why : Work τ α) := by
  rintro s b hb
  simp at hb

lemma bind (h : Gives P step) (hnext : ∀ a, P a → Gives Q (next a)) : Gives Q (step >>= next) := by
  intro s b hb
  rw [runIn_bind] at hb
  rcases hstep : step.runIn s with ⟨why | a, s'⟩ <;> rw [hstep] at hb
  · simp at hb
  · exact hnext a (h (by rw [hstep])) hb

/-- What the last step gives is what all of them give. -/
lemma bind_last (hnext : ∀ a, Gives Q (next a)) : Gives Q (step >>= next) :=
  bind (P := fun _ => True) (fun _ _ _ => trivial) fun a _ => hnext a

lemma settle (h : Gives P step) : Gives (fun outcome => ∀ a, outcome = .ok a → P a) (settle step) := by
  rintro s outcome hb a rfl
  exact h (Except.ok.inj hb)

end Gives

end Work

namespace Sandbox

variable {τ : Type}

/-- Reading a file is one request, and its answer depends on the requests before it. -/
@[simp] lemma runIn_readContent (client : Client) (sandbox path : String) (s : Session τ) :
    (readContent client sandbox path).runIn s =
      (.ok (contentOf (client.read s.journal sandbox path)),
        { s with journal := .read sandbox path :: s.journal }) :=
  rfl

end Sandbox

/-! ## Steps that only ask -/

variable {τ α β : Type}

/-- A session later on, after some more requests and log entries, both the latest first. -/
def Session.since (calls : List Call) (entries : List LogEntry) (s : Session τ) : Session τ :=
  { s with journal := calls ++ s.journal, log := entries ++ s.log }

@[simp] lemma Session.since_nil (s : Session τ) : s.since [] [] = s :=
  rfl

@[simp] lemma Session.since_since (s : Session τ) (calls more : List Call)
    (entries others : List LogEntry) :
    (s.since calls entries).since more others = s.since (more ++ calls) (others ++ entries) := by
  simp [Session.since]

@[simp] lemma Session.journal_since (s : Session τ) (calls : List Call) (entries : List LogEntry) :
    (s.since calls entries).journal = calls ++ s.journal :=
  rfl

@[simp] lemma Session.manifests_since (s : Session τ) (calls : List Call)
    (entries : List LogEntry) : (s.since calls entries).manifests = s.manifests :=
  rfl

@[simp] lemma Session.trees_since (s : Session τ) (calls : List Call) (entries : List LogEntry) :
    (s.since calls entries).trees = s.trees :=
  rfl

@[simp] lemma Session.now_since (s : Session τ) (calls : List Call) (entries : List LogEntry) :
    (s.since calls entries).now = s.now :=
  rfl

namespace Work

/-- A step comes to an outcome after some requests, and changes nothing else but the log. -/
def Answers (step : Work τ α) (s : Session τ) (outcome : Except Interruption α)
    (calls : List Call) : Prop :=
  ∃ entries, step.runIn s = (outcome, s.since calls entries)

namespace Answers

variable {step : Work τ α} {next : α → Work τ β} {s : Session τ}
  {outcome : Except Interruption α} {outcome' : Except Interruption β} {calls calls' : List Call}

lemma fst_runIn (h : step.Answers s outcome calls) : (step.runIn s).1 = outcome := by
  obtain ⟨entries, hrun⟩ := h
  rw [hrun]

protected lemma pure (a : α) (s : Session τ) : (pure a : Work τ α).Answers s (.ok a) [] :=
  ⟨[], rfl⟩

protected lemma throw (why : Interruption) (s : Session τ) :
    (throw why : Work τ α).Answers s (.error why) [] :=
  ⟨[], rfl⟩

lemma note (entry : LogEntry) (s : Session τ) : (Work.note entry).Answers s (.ok ()) [] :=
  ⟨[entry], rfl⟩

lemma noteAll (entries : List LogEntry) (s : Session τ) :
    (Work.noteAll entries).Answers s (.ok ()) [] :=
  ⟨entries.reverse, rfl⟩

/-- Recording a request is that request, and gives the ones before it. -/
lemma record (call : Call) (s : Session τ) :
    (Work.record call).Answers s (.ok s.journal) [call] :=
  ⟨[], rfl⟩

lemma settle (h : step.Answers s outcome calls) :
    (Work.settle step).Answers s (.ok outcome) calls := by
  obtain ⟨entries, hrun⟩ := h
  exact ⟨entries, by rw [runIn_settle, hrun]⟩

lemma bind {a : α} (h : step.Answers s (.ok a) calls)
    (hnext : ∀ entries, (next a).Answers (s.since calls entries) outcome' calls') :
    (step >>= next).Answers s outcome' (calls' ++ calls) := by
  obtain ⟨entries, hrun⟩ := h
  obtain ⟨others, hrun'⟩ := hnext entries
  exact ⟨others ++ entries, by rw [runIn_bind_of_ok hrun, hrun', Session.since_since]⟩

lemma bind_error {why : Interruption} (h : step.Answers s (.error why) calls) :
    (step >>= next).Answers s (.error why) calls := by
  obtain ⟨entries, hrun⟩ := h
  exact ⟨entries, runIn_bind_of_error hrun⟩

/-- A step behind one that asks for nothing asks for all that is asked. -/
lemma bind_nil {a : α} (h : step.Answers s (.ok a) [])
    (hnext : ∀ entries, (next a).Answers (s.since [] entries) outcome' calls') :
    (step >>= next).Answers s outcome' calls' := by
  simpa using h.bind hnext

/-- Behind a step that only asks, one that asks for nothing changes only the outcome. -/
lemma bind_quiet {a : α} (h : step.Answers s (.ok a) calls)
    (hnext : ∀ t, (next a).Answers t outcome' []) :
    (step >>= next).Answers s outcome' calls := by
  simpa using h.bind fun entries => hnext (s.since calls entries)

end Answers

end Work

end ProjectCheck
