import Mathlib.Algebra.Order.Ring.Int
import Mathlib.Data.List.Induction
import ProjectCheck.Proofs.Cache.Lookup
import ProjectCheck.Proofs.Manifest.World

/-!
# Loads that interleave

A load of a manifest takes three steps (`Step.look`, `Step.read`, `Step.finish`), and between them
other loads may take theirs, files may change, time may pass and what is remembered may be
forgotten.  In a row the steps are a load (`answers_in_a_row`).

Forgetting does not reach a load that has read its file and not stored what that says
(`not_forall_answer_read_since`).  It reaches everything else: a manifest that is given out by a
load that was started later was read later, or was held by such a load
(`answer_after_forgetting`).
-/

namespace ProjectCheck.Manifest

/-- How far a load has come. -/
inductive Phase where
  /-- Nothing is remembered, and the manifest file is asked for. -/
  | asking
  /-- The file was read, and what it says is not stored yet. -/
  | holding (content : Option Value)
  /-- The load has given its answer. -/
  | done

/-- A load of the manifest of a sandbox. -/
structure Task where
  sandbox : String
  phase : Phase

/-- A world, and the loads that were started in it. -/
structure Desk (τ : Type) where
  world : World τ
  tasks : ℕ → Option Task

/-- What a load has answered. -/
structure Answer where
  task : ℕ
  sandbox : String
  result : Except Interruption Manifest

/-- A step of a load, or a change of the world. -/
inductive Step (τ : Type) [Zero τ] [LE τ] where
  /-- A load is started, and looks into the memory. -/
  | look (task : ℕ) (sandbox : String)
  /-- A load reads the manifest file. -/
  | read (task : ℕ)
  /-- A load stores what its file says. -/
  | finish (task : ℕ)
  | change (c : Change τ)

variable {τ : Type}

/-- Takes a load to its next phase, in a session that has gone on. -/
def Desk.goOn (d : Desk τ) (task : ℕ) (sandbox : String) (phase : Phase) (session : Session τ) :
    Desk τ where
  world := { d.world with session }
  tasks := Function.update d.tasks task (some ⟨sandbox, phase⟩)

/-- A world as an analyser starts in it, before any load. -/
def Desk.atStart (now ttl treeTtl : τ) (files : (sandbox path : String) → Option String) : Desk τ :=
  ⟨.atStart now ttl treeTtl files, fun _ => none⟩

lemma Desk.tasks_goOn_self (d : Desk τ) (task : ℕ) (sandbox : String) (phase : Phase)
    (session : Session τ) :
    (d.goOn task sandbox phase session).tasks task = some ⟨sandbox, phase⟩ :=
  Function.update_self ..

lemma Desk.tasks_goOn_of_ne {d : Desk τ} {task other : ℕ} (h : other ≠ task) {sandbox : String}
    {phase : Phase} {session : Session τ} :
    (d.goOn task sandbox phase session).tasks other = d.tasks other :=
  Function.update_of_ne h ..

variable [AddCommGroup τ] [LinearOrder τ] {path sandbox : String}

namespace Step

/-- What a step does, and what it answers, if it ends a load.  A step that is not due does
nothing. -/
def act (path : String) : Step τ → Desk τ → Desk τ × Option Answer
  | look task sandbox, d =>
    match d.tasks task with
    | some _ => (d, none)
    | none =>
      match (remembered sandbox).runIn d.world.session with
      | (.ok none, session) => (d.goOn task sandbox .asking session, none)
      | (.ok (some m), session) => (d.goOn task sandbox .done session, some ⟨task, sandbox, .ok m⟩)
      | (.error why, session) =>
        (d.goOn task sandbox .done session, some ⟨task, sandbox, .error why⟩)
  | read task, d =>
    match d.tasks task with
    | some ⟨sandbox, .asking⟩ =>
      match (Sandbox.readContent d.world.client sandbox path).runIn d.world.session with
      | (.ok content, session) => (d.goOn task sandbox (.holding content) session, none)
      | (.error why, session) =>
        (d.goOn task sandbox .done session, some ⟨task, sandbox, .error why⟩)
    | _ => (d, none)
  | finish task, d =>
    match d.tasks task with
    | some ⟨sandbox, .holding content⟩ =>
      let run := (store sandbox path content).runIn d.world.session
      (d.goOn task sandbox .done run.2, some ⟨task, sandbox, run.1⟩)
    | _ => (d, none)
  | change c, d => ({ d with world := c.after d.world }, none)

/-- The desk after a history. -/
def afterAll (path : String) (history : List (Step τ)) (d : Desk τ) : Desk τ :=
  history.foldl (fun d step => (step.act path d).1) d

/-- What is answered in a history. -/
def answers (path : String) : List (Step τ) → Desk τ → List Answer
  | [], _ => []
  | step :: rest, d => (step.act path d).2.toList ++ answers path rest (step.act path d).1

@[simp] lemma afterAll_nil (path : String) (d : Desk τ) : afterAll path [] d = d :=
  rfl

@[simp] lemma afterAll_concat (path : String) (history : List (Step τ)) (step : Step τ)
    (d : Desk τ) :
    afterAll path (history ++ [step]) d = (step.act path (afterAll path history d)).1 := by
  simp [afterAll]

/-- An answer in a history is the answer of one of its steps. -/
lemma exists_of_mem_answers {a : Answer} {history : List (Step τ)} {d : Desk τ}
    (h : a ∈ answers path history d) :
    ∃ before step rest, history = before ++ step :: rest ∧
      (step.act path (afterAll path before d)).2 = some a := by
  induction history generalizing d with
  | nil => simp [answers] at h
  | cons step history ih =>
    rcases List.mem_append.1 h with hfirst | hlater
    · exact ⟨[], step, history, rfl, Option.mem_toList.1 hfirst⟩
    · obtain ⟨before, other, rest, rfl, ha⟩ := ih hlater
      exact ⟨step :: before, other, rest, rfl, ha⟩

/-! ## What a step can do -/

/-- All that a step can do at a desk: the desk after it, and the answer. -/
inductive Acts (path : String) (d : Desk τ) : Step τ → Desk τ × Option Answer → Prop
  /-- A step that is not due does nothing. -/
  | idle (step : Step τ) : Acts path d step (d, none)
  | hit {task : ℕ} {sandbox : String} {m : Manifest} (hnew : d.tasks task = none)
      (hget : (d.world.session.manifests.get sandbox d.world.session.now).1 = some m) :
      Acts path d (look task sandbox)
        (d.goOn task sandbox .done { d.world.session with
          manifests := (d.world.session.manifests.get sandbox d.world.session.now).2 },
          some ⟨task, sandbox, .ok m⟩)
  | miss {task : ℕ} {sandbox : String} (hnew : d.tasks task = none)
      (hget : (d.world.session.manifests.get sandbox d.world.session.now).1 = none) :
      Acts path d (look task sandbox)
        (d.goOn task sandbox .asking { d.world.session with
          manifests := (d.world.session.manifests.get sandbox d.world.session.now).2 }, none)
  | read {task : ℕ} {sandbox : String} (htask : d.tasks task = some ⟨sandbox, .asking⟩) :
      Acts path d (read task)
        (d.goOn task sandbox (.holding (d.world.content sandbox path)) { d.world.session with
          journal := .read sandbox path :: d.world.session.journal }, none)
  | stored {task : ℕ} {sandbox : String} {content : Option Value} {m : Manifest} {entry : LogEntry}
      (htask : d.tasks task = some ⟨sandbox, .holding content⟩)
      (hsaid : ofContent sandbox path content = .ok (m, entry)) :
      Acts path d (finish task)
        (d.goOn task sandbox .done { d.world.session with
          log := entry :: d.world.session.log
          manifests := d.world.session.manifests.put sandbox (some m) d.world.session.now },
          some ⟨task, sandbox, .ok m⟩)
  | broken {task : ℕ} {sandbox : String} {content : Option Value} {why : Interruption}
      (htask : d.tasks task = some ⟨sandbox, .holding content⟩)
      (hsaid : ofContent sandbox path content = .error why) :
      Acts path d (finish task)
        (d.goOn task sandbox .done d.world.session, some ⟨task, sandbox, .error why⟩)
  | change (c : Change τ) : Acts path d (change c) ({ d with world := c.after d.world }, none)

theorem acts (path : String) (d : Desk τ) (step : Step τ) : Acts path d step (step.act path d) := by
  cases step with
  | look task sandbox =>
    cases hnew : d.tasks task with
    | some started =>
      simp only [act, hnew]
      exact .idle _
    | none =>
      cases hget : (d.world.session.manifests.get sandbox d.world.session.now).1 with
      | some m =>
        simp only [act, hnew, runIn_remembered, hget]
        exact .hit hnew hget
      | none =>
        simp only [act, hnew, runIn_remembered, hget]
        exact .miss hnew hget
  | read task =>
    rcases htask : d.tasks task with _ | ⟨sandbox, _ | content | _⟩
    case some.asking =>
      simp only [act, htask, Sandbox.runIn_readContent, World.contentOf_read]
      exact .read htask
    all_goals
      simp only [act, htask]
      exact .idle _
  | finish task =>
    rcases htask : d.tasks task with _ | ⟨sandbox, _ | content | _⟩
    case some.holding =>
      rcases hsaid : ofContent sandbox path content with why | ⟨m, entry⟩
      · simp only [act, htask, runIn_store_of_error hsaid]
        exact .broken htask hsaid
      · simp only [act, htask, runIn_store_of_ok hsaid]
        exact .stored htask hsaid
    all_goals
      simp only [act, htask]
      exact .idle _
  | change c => exact .change c

section

variable {d : Desk τ} {step : Step τ} {task : ℕ} {content : Option Value} {m : Manifest} {time : τ}

/-- What a change of the world leaves in the memory was there before. -/
lemma mem_manifests_change {entry : String × Stored τ Manifest} {c : Change τ} {w : World τ}
    (h : entry ∈ (c.after w).session.manifests.entries) : entry ∈ w.session.manifests.entries := by
  cases c with
  | invalidate removed => exact Cache.mem_of_mem_invalidate h
  | wait span => exact h
  | write place file content => exact h

/-- What is in the memory after a step was there before, or was held by the load that the step has
finished. -/
lemma mem_manifests_act
    (h : (sandbox, ⟨some m, time⟩) ∈ (step.act path d).1.world.session.manifests.entries) :
    (sandbox, ⟨some m, time⟩) ∈ d.world.session.manifests.entries ∨
      ∃ task content, step = finish task ∧ d.tasks task = some ⟨sandbox, .holding content⟩ ∧
        (ofContent sandbox path content).map Prod.fst = .ok m := by
  have hact := acts path d step
  generalize step.act path d = outcome at h hact
  cases hact with
  | idle | read | broken => exact .inl h
  | hit | miss => exact .inl (Cache.mem_of_mem_get h)
  | change c => exact .inl (mem_manifests_change h)
  | @stored task other content said entry htask hsaid =>
    rcases Cache.mem_of_mem_put h with hput | hold
    · simp only [Prod.mk.injEq, Stored.mk.injEq, Option.some.injEq] at hput
      obtain ⟨rfl, rfl, -⟩ := hput
      exact .inr ⟨task, content, rfl, htask, by rw [hsaid]; rfl⟩
    · exact .inl hold

/-- What a load holds after a step it held before, or the step has read it. -/
lemma tasks_act_holding (h : (step.act path d).1.tasks task = some ⟨sandbox, .holding content⟩) :
    d.tasks task = some ⟨sandbox, .holding content⟩ ∨
      step = read task ∧ d.tasks task = some ⟨sandbox, .asking⟩ ∧
        d.world.content sandbox path = content := by
  have hact := acts path d step
  generalize step.act path d = outcome at h hact
  cases hact with
  | idle | change => exact .inl h
  | @hit moved | @miss moved | @stored moved | @broken moved =>
    by_cases hmoved : task = moved
    · -- the load that was moved is asking, or done
      rw [hmoved, Desk.tasks_goOn_self] at h
      simp at h
    · exact .inl (Desk.tasks_goOn_of_ne hmoved ▸ h)
  | @read moved other htask =>
    by_cases hmoved : task = moved
    · subst hmoved
      rw [Desk.tasks_goOn_self] at h
      simp only [Option.some.injEq, Task.mk.injEq, Phase.holding.injEq] at h
      obtain ⟨rfl, hcontent⟩ := h
      exact .inr ⟨rfl, htask, hcontent⟩
    · exact .inl (Desk.tasks_goOn_of_ne hmoved ▸ h)

/-- A manifest that a step answers was remembered, or was held by the load. -/
lemma act_answer_ok (h : (step.act path d).2 = some ⟨task, sandbox, .ok m⟩) :
    (∃ time, (sandbox, ⟨some m, time⟩) ∈ d.world.session.manifests.entries) ∨
      ∃ content, d.tasks task = some ⟨sandbox, .holding content⟩ ∧
        (ofContent sandbox path content).map Prod.fst = .ok m := by
  have hact := acts path d step
  generalize step.act path d = outcome at h hact
  cases hact with
  | idle | miss | read | change => simp at h
  | broken => simp at h
  | hit hnew hget =>
    simp only [Option.some.injEq, Answer.mk.injEq, Except.ok.injEq] at h
    obtain ⟨-, rfl, rfl⟩ := h
    exact .inl (Cache.exists_mem_of_get hget)
  | stored htask hsaid =>
    simp only [Option.some.injEq, Answer.mk.injEq, Except.ok.injEq] at h
    obtain ⟨rfl, rfl, rfl⟩ := h
    exact .inr ⟨_, htask, by rw [hsaid]; rfl⟩

end

/-- **In a row, the steps are a load.** -/
theorem answers_in_a_row (path sandbox : String) {d : Desk τ} {task : ℕ} (h : d.tasks task = none) :
    let steps : List (Step τ) := [look task sandbox, read task, finish task]
    let run := (load d.world.client path sandbox).runIn d.world.session
    answers path steps d = [⟨task, sandbox, run.1⟩] ∧
      (afterAll path steps d).world = { d.world with session := run.2 } := by
  intro steps run
  cases hget : (d.world.session.manifests.get sandbox d.world.session.now).1 with
  | some m =>
    have hrun := runIn_load_of_remembered d.world.client path hget
    simp [steps, run, answers, afterAll, act, h, runIn_remembered, hget, hrun, Desk.goOn]
  | none =>
    have hrun := runIn_load_of_forgotten d.world.client path hget
    simp [steps, run, answers, afterAll, act, h, runIn_remembered, hget, hrun, Desk.goOn,
      Sandbox.runIn_readContent, World.client]

/-! ## Where an answer comes from -/

/-- In a history, a load has read a content as the manifest file of a sandbox. -/
def ReadIn (path sandbox : String) (start : Desk τ) (history : List (Step τ))
    (content : Option Value) : Prop :=
  ∃ before task rest, history = before ++ .read task :: rest ∧
    (afterAll path before start).tasks task = some ⟨sandbox, .asking⟩ ∧
    (afterAll path before start).world.content sandbox path = content

/-- In a history, a load has finished that held a content of a sandbox at its start. -/
def FinishedIn (sandbox : String) (start : Desk τ) (history : List (Step τ))
    (content : Option Value) : Prop :=
  ∃ task, start.tasks task = some ⟨sandbox, .holding content⟩ ∧ .finish task ∈ history

/-- A manifest is what some content says that was read in a history, or held at its start and
finished in it. -/
def IsAccounted (path sandbox : String) (start : Desk τ) (history : List (Step τ))
    (m : Manifest) : Prop :=
  ∃ content,
    (ReadIn path sandbox start history content ∨ FinishedIn sandbox start history content) ∧
    (ofContent sandbox path content).map Prod.fst = .ok m

section

variable {start : Desk τ} {history rest : List (Step τ)} {content : Option Value} {m : Manifest}

lemma ReadIn.append (h : ReadIn path sandbox start history content) (rest : List (Step τ)) :
    ReadIn path sandbox start (history ++ rest) content := by
  obtain ⟨before, task, between, rfl, hread⟩ := h
  exact ⟨before, task, between ++ rest, by simp, hread⟩

lemma IsAccounted.append (h : IsAccounted path sandbox start history m) (rest : List (Step τ)) :
    IsAccounted path sandbox start (history ++ rest) m := by
  obtain ⟨content, hread | ⟨task, htask, hfinish⟩, hsaid⟩ := h
  · exact ⟨content, .inl (hread.append rest), hsaid⟩
  · exact ⟨content, .inr ⟨task, htask, List.mem_append_left rest hfinish⟩, hsaid⟩

/-- What a load holds after a history it has read in it, or held at its start. -/
lemma tasks_afterAll_holding {task : ℕ}
    (h : (afterAll path history start).tasks task = some ⟨sandbox, .holding content⟩) :
    ReadIn path sandbox start history content ∨
      start.tasks task = some ⟨sandbox, .holding content⟩ := by
  induction history using List.reverseRecOn with
  | nil => exact .inr h
  | append_singleton history step ih =>
    rw [afterAll_concat] at h
    rcases tasks_act_holding h with hheld | ⟨rfl, hasking, hcontent⟩
    · exact (ih hheld).imp_left (ReadIn.append · [step])
    · exact .inl ⟨history, task, [], rfl, hasking, hcontent⟩

/-- If at first nothing is remembered of a sandbox, then after a history every manifest that is
remembered of it can be accounted for. -/
lemma isAccounted_of_mem_manifests
    (hstart : ∀ m time, (sandbox, ⟨some m, time⟩) ∉ start.world.session.manifests.entries)
    {time : τ} (h : (sandbox, ⟨some m, time⟩) ∈
      (afterAll path history start).world.session.manifests.entries) :
    IsAccounted path sandbox start history m := by
  induction history using List.reverseRecOn with
  | nil => exact absurd h (hstart m time)
  | append_singleton history step ih =>
    rw [afterAll_concat] at h
    rcases mem_manifests_act h with hold | ⟨task, content, rfl, htask, hsaid⟩
    · exact (ih hold).append [step]
    · -- what the step has finished was read in the history, or was held since its start
      refine ⟨content, (tasks_afterAll_holding htask).imp (ReadIn.append · _) fun hheld => ?_,
        hsaid⟩
      exact ⟨task, hheld, by simp⟩

end

/-- Forgetting leaves nothing that is remembered of the sandbox. -/
lemma notMem_manifests_of_forgets {d : Desk τ} {c : Change τ} (h : c.Forgets sandbox) (m : Manifest)
    (time : τ) :
    (sandbox, ⟨some m, time⟩) ∉ ((change c).act path d).1.world.session.manifests.entries := by
  cases c with
  | invalidate removed =>
    intro hmem
    rcases h with rfl | rfl
    · cases hmem
    · simpa using (List.mem_filter.1 hmem).2
  | wait span => exact absurd h id
  | write place file content => exact absurd h id

/-- **Forgetting and loads in flight.**  A load that was started after its sandbox was forgotten
gives what was read later, or what another load had read by then and has stored since. -/
theorem answer_after_forgetting {d : Desk τ} {c : Change τ} (hforgets : c.Forgets sandbox)
    {history : List (Step τ)} {task : ℕ} {m : Manifest} (hnew : d.tasks task = none)
    (hanswer : ⟨task, sandbox, .ok m⟩ ∈ answers path history ((change c).act path d).1) :
    IsAccounted path sandbox ((change c).act path d).1 history m := by
  obtain ⟨before, step, rest, rfl, hstep⟩ := exists_of_mem_answers hanswer
  rcases act_answer_ok hstep with ⟨time, hmem⟩ | ⟨content, htask, hsaid⟩
  · exact (isAccounted_of_mem_manifests (notMem_manifests_of_forgets hforgets) hmem).append _
  · rcases tasks_afterAll_holding htask with hread | hheld
    · exact ⟨content, .inl (hread.append _), hsaid⟩
    · -- a load that was started later did not hold anything then
      change d.tasks task = _ at hheld
      rw [hnew] at hheld
      cases hheld

/-- A load has read its manifest file, and has not stored what it says. -/
def deskInFlight : Desk Int :=
  afterAll "tsconfig.json" [look 0 "box", read 0] (.atStart 0 300 30 filesWithBase)

/-- The file is removed, the load in flight finishes, and another load is started. -/
def historyInFlight : List (Step Int) :=
  [change (.write "box" "tsconfig.json" none), finish 0, look 1 "box"]

/-- The load that is started last answers with what the first one had read. -/
lemma mem_answers_in_flight :
    ⟨1, "box", .ok { baseUrl := some "src" }⟩ ∈ answers "tsconfig.json" historyInFlight
      ((change (.invalidate (some "box"))).act "tsconfig.json" deskInFlight).1 := by
  have hall : [(0, "box", some { baseUrl := some "src" }),
        (1, "box", some { baseUrl := some "src" })] =
      (answers "tsconfig.json" historyInFlight
        ((change (.invalidate (some "box"))).act "tsconfig.json" deskInFlight).1).map
          fun a => (a.task, a.sandbox, a.result.toOption) := by decide +kernel
  have hlast := List.mem_cons_of_mem (0, "box", some ({ baseUrl := some "src" } : Manifest))
    (List.mem_singleton_self (1, "box", some ({ baseUrl := some "src" } : Manifest)))
  rw [hall] at hlast
  obtain ⟨⟨task, sandbox, result⟩, hmem, ha⟩ := List.mem_map.1 hlast
  cases result with
  | error why => simp [Except.toOption] at ha
  | ok m =>
    simp only [Except.toOption, Prod.mk.injEq, Option.some.injEq] at ha
    obtain ⟨rfl, rfl, rfl⟩ := ha
    exact hmem

/-- Forgetting does not reach a load in flight. -/
theorem not_forall_answer_read_since :
    ¬ ∀ (files : String → String → Option String) (earlier history : List (Step Int))
        (c : Change Int) (sandbox : String) (task : ℕ) (m : Manifest),
      let d := afterAll "tsconfig.json" earlier (.atStart 0 300 30 files)
      let forgetful := ((change c).act "tsconfig.json" d).1
      c.Forgets sandbox → d.tasks task = none →
      ⟨task, sandbox, .ok m⟩ ∈ answers "tsconfig.json" history forgetful →
      ∃ content, ReadIn "tsconfig.json" sandbox forgetful history content ∧
        (ofContent sandbox "tsconfig.json" content).map Prod.fst = .ok m := by
  intro h
  obtain ⟨content, ⟨before, task, rest, hhistory, -⟩, -⟩ :=
    h filesWithBase [look 0 "box", read 0] historyInFlight (.invalidate (some "box")) "box" 1
      { baseUrl := some "src" } (.inr rfl) rfl mem_answers_in_flight
  -- nothing is read in that history
  have hread : read task ∈ historyInFlight := by
    rw [hhistory]
    simp
  simp [historyInFlight] at hread

/-- What the load gives that is started last was held by the one in flight. -/
theorem answer_of_load_in_flight :
    (Change.invalidate (some "box") : Change Int).Forgets "box" ∧ deskInFlight.tasks 1 = none ∧
      IsAccounted "tsconfig.json" "box"
        ((change (.invalidate (some "box"))).act "tsconfig.json" deskInFlight).1 historyInFlight
        { baseUrl := some "src" } := by
  have hforgets : (Change.invalidate (some "box") : Change Int).Forgets "box" := .inr rfl
  have hnew : deskInFlight.tasks 1 = none := rfl
  exact ⟨hforgets, hnew, answer_after_forgetting hforgets hnew mem_answers_in_flight⟩

end Step

end ProjectCheck.Manifest
