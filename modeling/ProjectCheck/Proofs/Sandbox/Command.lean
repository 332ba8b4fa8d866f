import ProjectCheck.Proofs.Session.Answers
import ProjectCheck.Sandbox.Access

/-!
# What running a command does

A command is one request, or none if it is not sent (`requestOf`), and what comes of it is decided by
the answer of the client to that request (`commandOutcome`).  Nothing else in a session changes
(`answers_runCommand`).

A command ends with a result or with a fault, but for one answer: an exit code that is an infinite
number is neither an integer nor taken for a fault (`runCommand_outcomes`).
-/

namespace ProjectCheck.Sandbox

variable {τ : Type}

/-- The interruption by a command that did not end in time. -/
def timeoutOf (sandbox command : String) (timeoutMs : Int) : Interruption :=
  .fault (.commandTimeout (.text sandbox) (.text command) (.int timeoutMs))

/-- The interruption by a command that could not be run. -/
def failureOf (sandbox command reason : String) : Interruption :=
  .fault (.commandFailed (.text sandbox) (.text command) (.text reason))

/-- What comes of the answer to a command. -/
def outcomeOfAnswer (sandbox command : String) (timeoutMs : Int) :
    CommandAnswer → Except Interruption CommandResult
  | .timeout => .error (timeoutOf sandbox command timeoutMs)
  | .fault f => .error (.fault f)
  | .failure reason => .error (failureOf sandbox command reason)
  | .response r => r.normalize.mapError interruptionOf

/-- What comes of a command that is run after some requests. -/
def commandOutcome (client : Client) (earlier : List Call) (sandbox command : String)
    (timeoutMs : Int) : Except Interruption CommandResult :=
  if !isCountable timeoutMs then .error (failureOf sandbox command uncountableReason)
  else if timeoutMs ≤ 0 then .error (timeoutOf sandbox command timeoutMs)
  else outcomeOfAnswer sandbox command timeoutMs (client.execute earlier sandbox command timeoutMs)

/-- Whether a command is sent: it has some time, and no more than seconds can tell. -/
def isSent (timeoutMs : Int) : Bool :=
  isCountable timeoutMs && decide (0 < timeoutMs)

/-- The request that a command is; none if it is not sent. -/
def requestOf (sandbox command : String) (timeoutMs : Int) : List Call :=
  if isSent timeoutMs then [.command sandbox command timeoutMs] else []

/-- What comes of a command that is sent is what comes of the answer to it. -/
lemma commandOutcome_of_isSent {timeoutMs : Int} (h : isSent timeoutMs = true) (client : Client)
    (earlier : List Call) (sandbox command : String) :
    commandOutcome client earlier sandbox command timeoutMs =
      outcomeOfAnswer sandbox command timeoutMs
        (client.execute earlier sandbox command timeoutMs) := by
  rw [isSent, Bool.and_eq_true, decide_eq_true_eq] at h
  rw [commandOutcome, h.1, if_neg (by simp), if_neg (by omega)]

lemma answers_timeOut (sandbox command : String) (timeoutMs : Int) (s : Session τ) :
    (timeOut sandbox command timeoutMs).Answers s (.error (timeoutOf sandbox command timeoutMs))
      [] :=
  (Work.Answers.note _ s).bind_nil fun _ => .throw _ _

lemma answers_failCommand (sandbox command reason : String) (s : Session τ) :
    (failCommand sandbox command reason).Answers s (.error (failureOf sandbox command reason))
      [] :=
  (Work.Answers.note _ s).bind_nil fun _ => .throw _ _

/-- Running a command is one request at most, and its outcome is that of the answer. -/
theorem answers_runCommand (client : Client) (sandbox command : String) (timeoutMs : Int)
    (s : Session τ) :
    (runCommand client sandbox command timeoutMs).Answers s
      (commandOutcome client s.journal sandbox command timeoutMs)
      (requestOf sandbox command timeoutMs) := by
  rw [runCommand, commandOutcome, requestOf, isSent]
  cases isCountable timeoutMs with
  | false => exact answers_failCommand sandbox command uncountableReason s
  | true =>
    simp only [Bool.not_true, Bool.false_eq_true, if_false, Bool.true_and, decide_eq_true_eq]
    by_cases htime : timeoutMs ≤ 0
    · simp only [if_pos htime, if_neg (Int.not_lt.2 htime)]
      exact answers_timeOut sandbox command timeoutMs s
    · simp only [if_neg htime, if_pos (Int.not_le.1 htime)]
      refine (Work.Answers.record _ s).bind_quiet fun t => ?_
      cases client.execute s.journal sandbox command timeoutMs with
      | timeout => exact answers_timeOut sandbox command timeoutMs t
      | fault f => exact .throw _ t
      | failure reason => exact answers_failCommand sandbox command reason t
      | response r =>
        simp only [outcomeOfAnswer]
        cases r.normalize with
        | ok result => exact .pure _ t
        | error f => exact .throw _ t

/-- A client that answers a command alike after two pasts lets the same come of it. -/
lemma commandOutcome_congr {c₁ c₂ : Client} {earlier₁ earlier₂ : List Call}
    {sandbox command : String} {timeoutMs : Int}
    (h : c₁.execute earlier₁ sandbox command timeoutMs =
      c₂.execute earlier₂ sandbox command timeoutMs) :
    commandOutcome c₁ earlier₁ sandbox command timeoutMs =
      commandOutcome c₂ earlier₂ sandbox command timeoutMs := by
  rw [commandOutcome, commandOutcome, h]

/-! ## All that a command may end with -/

/-- A command ends with a fault that has a number and may be tried again, or not. -/
def FaultsWith (outcome : Except Interruption CommandResult) (code : Nat) (retryable : Bool) : Prop :=
  ∃ f, outcome = .error (.fault f) ∧ f.code = code ∧ f.isRetryable = retryable

lemma FaultsWith.exists_fault {outcome : Except Interruption CommandResult} {code : Nat}
    {retryable : Bool} (h : FaultsWith outcome code retryable) :
    ∃ f, outcome = .error (.fault f) :=
  h.imp fun _ hf => hf.1

/-- What stands for the exit code in an answer; null if nothing does. -/
def givenExitCode (answer : Value) : Value :=
  Response.pick (Response.fieldsOf answer) Response.exitCodeNames

/-- A number without end. -/
def IsEndless (v : Value) : Prop :=
  ∃ x : Float, v = .float x ∧ x.isInf = true

/-- Something that stands for no integer: it is neither a number nor says one. -/
def IsNoInteger : Value → Prop
  | .null | .bool _ | .int _ => False
  | .float x => x.isNaN = true
  | .text s => ∀ n, Number.readInteger s.toList ≠ .ok n
  | .bytes bs => bs.all Response.isPlainByte = true →
      ∀ n, Number.readInteger (Text.decodeUtf8 bs) ≠ .ok n
  | _ => True

/-- How a command ends that is answered by a value. -/
structure EndsByValue (v : Value) (outcome : Except Interruption CommandResult) : Prop where
  noResponse : Response.isContainer v = false → FaultsWith outcome 9001 false
  noInteger : Response.isContainer v = true → IsNoInteger (givenExitCode v) →
    FaultsWith outcome 9001 false
  endless : Response.isContainer v = true → IsEndless (givenExitCode v) →
    outcome = .error .endlessExitCode
  result : Response.isContainer v = true → ¬ IsEndless (givenExitCode v) →
    ¬ IsNoInteger (givenExitCode v) → ∃ result, outcome = .ok result

/-- A command that is answered by a value ends with a result or a fault, or the exit code has no
end. -/
lemma EndsByValue.closed {v : Value} {outcome : Except Interruption CommandResult}
    (h : EndsByValue v outcome) :
    (∃ result, outcome = .ok result) ∨ (∃ f, outcome = .error (.fault f)) ∨
      outcome = .error .endlessExitCode ∧ Response.isContainer v = true ∧
        IsEndless (givenExitCode v) := by
  cases hcontainer : Response.isContainer v with
  | false => exact .inr (.inl (h.noResponse hcontainer).exists_fault)
  | true =>
    by_cases hendless : IsEndless (givenExitCode v)
    · exact .inr (.inr ⟨h.endless hcontainer hendless, rfl, hendless⟩)
    · by_cases hnone : IsNoInteger (givenExitCode v)
      · exact .inr (.inl (h.noInteger hcontainer hnone).exists_fault)
      · exact .inl (h.result hcontainer hendless hnone)

end ProjectCheck.Sandbox
