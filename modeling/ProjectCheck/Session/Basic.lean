import ProjectCheck.Cache
import ProjectCheck.FileTree
import ProjectCheck.LintOutput
import ProjectCheck.Log.Entry
import ProjectCheck.Manifest.Basic
import ProjectCheck.Sandbox.Client

/-!
# Sessions

A session is what one analyser knows while it works: the time, what it remembers of each sandbox,
and what it has done so far, the latest first.  The requests in its journal are all that a client
sees of the past.

`Work` is a step of a session.  It changes the session and either gives a result or is broken off;
what was done up to the break stays done.
-/

namespace ProjectCheck

/-- What one analyser knows while it works. -/
structure Session (τ : Type) where
  now : τ
  manifests : Cache τ String Manifest
  trees : Cache τ String FileTree
  journal : List Call := []
  log : List LogEntry := []
deriving Repr

namespace Session

variable {τ : Type}

/-- A session that has done nothing and remembers nothing. -/
def start (now manifestTtl treeTtl : τ) : Session τ :=
  { now, manifests := .empty manifestTtl, trees := .empty treeTtl }

/-- A session at a later time. -/
def atTime (now : τ) (s : Session τ) : Session τ :=
  { s with now }

/-- Forgets what is remembered of one sandbox or of all. -/
def invalidate (sandbox : Option String) (s : Session τ) : Session τ :=
  { s with manifests := s.manifests.invalidate sandbox, trees := s.trees.invalidate sandbox }

/-- Clears the journal and the log. -/
def withoutPast (s : Session τ) : Session τ :=
  { s with journal := [], log := [] }

/-- The requests made so far, in order. -/
def calls (s : Session τ) : List Call :=
  s.journal.reverse

/-- The log entries so far, in order. -/
def entries (s : Session τ) : List LogEntry :=
  s.log.reverse

end Session

/-- Why a step is broken off. -/
inductive Interruption where
  | fault (f : Fault)
  /-- Something that is no text was to be read as one. -/
  | notText
  /-- A number in a compiler's output cannot be read. -/
  | numeral (f : Number.IntegerFault)
  /-- A linter's report cannot be used. -/
  | lint (f : LintOutput.Fault)
  /-- A command answered with an infinite exit code. -/
  | endlessExitCode
  /-- A stream was to be taken apart at an empty delimiter. -/
  | emptyDelimiter
  /-- The values of a manifest are nested too deeply. -/
  | tooDeep
deriving Repr, BEq

namespace Interruption

/-- Whether the sandbox gave no data: it could not be reached, or not in time. -/
def isNoData : Interruption → Bool
  | fault f => f.isRemote
  | _ => false

end Interruption

/-- A step of a session. -/
abbrev Work (τ α : Type) :=
  ExceptT Interruption (StateM (Session τ)) α

namespace Work

variable {τ α : Type}

/-- Adds an entry to the log. -/
def note (entry : LogEntry) : Work τ Unit :=
  modify fun s => { s with log := entry :: s.log }

/-- Adds entries to the log. -/
def noteAll (entries : List LogEntry) : Work τ Unit :=
  modify fun s => { s with log := entries.reverse ++ s.log }

/-- Adds a request to the journal and gives the requests before it. -/
def record (call : Call) : Work τ (List Call) := do
  let earlier := (← get).journal
  modify fun s => { s with journal := call :: s.journal }
  return earlier

/-- Does a step and gives its outcome, whether it is broken off or not. -/
def settle (step : Work τ α) : Work τ (Except Interruption α) :=
  ExceptT.mk (Except.ok <$> step.run)

/-- The outcome of a step in a session, and the session after it. -/
def runIn (step : Work τ α) (s : Session τ) : Except Interruption α × Session τ :=
  (step.run).run s

end Work

end ProjectCheck
