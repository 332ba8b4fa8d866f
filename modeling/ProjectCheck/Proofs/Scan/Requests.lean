import ProjectCheck.Proofs.Sandbox.Command
import ProjectCheck.Proofs.Session.Agreement
import ProjectCheck.Scan.Scanner

/-!
# What listing and reading files does

Both are one command each, and what comes of them is a function of what comes of the command
(`listingOutcome`, `readingOutcome`).  So two clients that answer these commands alike list and read
alike (`agree_listFiles`, `agree_readFiles`).
-/

namespace ProjectCheck.Scan

open ProjectCheck.Sandbox

variable {τ : Type}

/-- What comes of listing the files of a sandbox after some requests. -/
def listingOutcome (client : Client) (settings : ScannerSettings) (sandbox : String)
    (earlier : List Call) : Except Interruption (Option FileTree) :=
  (commandOutcome client earlier sandbox (listingCommand settings) settings.treeTimeoutMs).map
    fun result => (treeOf sandbox result).1

/-- The request that listing the files of a sandbox is. -/
def listingRequest (settings : ScannerSettings) (sandbox : String) : List Call :=
  requestOf sandbox (listingCommand settings) settings.treeTimeoutMs

/-- Listing the files of a sandbox is one command. -/
theorem answers_listFiles (client : Client) (settings : ScannerSettings) (sandbox : String)
    (s : Session τ) :
    (listFiles client settings sandbox).Answers s
      (listingOutcome client settings sandbox s.journal) (listingRequest settings sandbox) := by
  have hrun := answers_runCommand client sandbox (listingCommand settings)
    settings.treeTimeoutMs s
  rw [listFiles, listingOutcome]
  cases houtcome : commandOutcome client s.journal sandbox (listingCommand settings)
      settings.treeTimeoutMs with
  | error why =>
    rw [houtcome] at hrun
    exact hrun.bind_error
  | ok result =>
    rw [houtcome] at hrun
    refine hrun.bind_quiet fun t => ?_
    exact (Work.Answers.note _ t).bind_nil fun _ => .pure _ _

/-- The files in what a reading command printed. -/
def streamOf (settings : ScannerSettings) (result : CommandResult) : Except Interruption Stream :=
  if result.stdout.isEmpty then .ok {}
  else
    match Stream.decode? (framingOf settings) result.stdout with
    | none => .error .emptyDelimiter
    | some stream => .ok stream

lemma answers_takeIn (settings : ScannerSettings) (sandbox : String) (result : CommandResult)
    (s : Session τ) :
    (takeIn settings sandbox result).Answers s (streamOf settings result) [] := by
  rw [takeIn, streamOf]
  refine (Work.Answers.noteAll _ s).bind_quiet fun t => ?_
  cases result.stdout.isEmpty with
  | true =>
    simp only [if_true]
    exact (Work.Answers.note _ t).bind_quiet fun u => .pure _ u
  | false =>
    simp only [Bool.false_eq_true, if_false]
    cases Stream.decode? (framingOf settings) result.stdout with
    | none => exact .throw _ t
    | some stream =>
      refine (Work.Answers.noteAll _ t).bind_quiet fun u => ?_
      exact (Work.Answers.note _ u).bind_quiet fun v => .pure _ v

/-- What comes of reading the selected files of a sandbox after some requests. -/
def readingOutcome (client : Client) (settings : ScannerSettings) (sandbox : String)
    (earlier : List Call) : Except Interruption Stream :=
  (commandOutcome client earlier sandbox (readingCommand settings) settings.batchTimeoutMs).bind
    (streamOf settings)

/-- The request that reading the selected files of a sandbox is. -/
def readingRequest (settings : ScannerSettings) (sandbox : String) : List Call :=
  requestOf sandbox (readingCommand settings) settings.batchTimeoutMs

/-- Reading the selected files of a sandbox is one command. -/
theorem answers_readFiles (client : Client) (settings : ScannerSettings) (sandbox : String)
    (s : Session τ) :
    (readFiles client settings sandbox).Answers s
      (readingOutcome client settings sandbox s.journal) (readingRequest settings sandbox) := by
  have hrun := answers_runCommand client sandbox (readingCommand settings)
    settings.batchTimeoutMs s
  rw [readFiles, readingOutcome]
  cases houtcome : commandOutcome client s.journal sandbox (readingCommand settings)
      settings.batchTimeoutMs with
  | error why =>
    rw [houtcome] at hrun
    exact hrun.bind_error
  | ok result =>
    rw [houtcome] at hrun
    exact hrun.bind_quiet (answers_takeIn settings sandbox result)

/-! ## Two clients -/

variable {R : Session τ → Session τ → Prop} {c₁ c₂ : Client} {settings : ScannerSettings}
  {sandbox : String}

/-- Listing with two clients that answer the command alike respects what a request respects. -/
lemma agree_listFiles
    (hsince : ∀ ⦃s t⦄ calls entries others, R s t → R (s.since calls entries) (t.since calls others))
    (h : ∀ ⦃s t⦄, R s t →
      c₁.execute s.journal sandbox (listingCommand settings) settings.treeTimeoutMs =
        c₂.execute t.journal sandbox (listingCommand settings) settings.treeTimeoutMs) :
    Work.Agree R (listFiles c₁ settings sandbox) (listFiles c₂ settings sandbox) := by
  refine .of_answers (answers_listFiles c₁ settings sandbox) (answers_listFiles c₂ settings sandbox)
    (fun s t hst => ?_) fun _ _ => hsince _
  rw [listingOutcome, listingOutcome, commandOutcome_congr (h hst)]

/-- Reading with two clients that answer the command alike respects what a request respects. -/
lemma agree_readFiles
    (hsince : ∀ ⦃s t⦄ calls entries others, R s t → R (s.since calls entries) (t.since calls others))
    (h : ∀ ⦃s t⦄, R s t →
      c₁.execute s.journal sandbox (readingCommand settings) settings.batchTimeoutMs =
        c₂.execute t.journal sandbox (readingCommand settings) settings.batchTimeoutMs) :
    Work.Agree R (readFiles c₁ settings sandbox) (readFiles c₂ settings sandbox) := by
  refine .of_answers (answers_readFiles c₁ settings sandbox) (answers_readFiles c₂ settings sandbox)
    (fun s t hst => ?_) fun _ _ => hsince _
  rw [readingOutcome, readingOutcome, commandOutcome_congr (h hst)]

end ProjectCheck.Scan
