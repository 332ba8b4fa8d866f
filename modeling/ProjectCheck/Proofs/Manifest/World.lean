import Mathlib.Algebra.Order.Group.Defs
import ProjectCheck.Proofs.Manifest.Loading

/-!
# Manifests in a changing world

The surroundings in which manifests are loaded: sandboxes with text files, which are written and
removed, a clock, which goes on, and an analyser that is told to forget what it knows.  Whoever
reads a file gets its text at that moment (`World.content`).
-/

namespace ProjectCheck.Manifest

/-- A session beside the text files of all sandboxes. -/
structure World (τ : Type) where
  session : Session τ
  files : (sandbox path : String) → Option String

/-- What a manifest file says: nothing if it is absent or no JSON.  A text that is nested too deeply
cannot be read at all. -/
def ofFile : Option String → Except Interruption Manifest
  | none => .ok {}
  | some text =>
    match parse text with
    | .ok m => .ok m
    | .error .malformed => .ok {}
    | .error .tooDeep => .error .tooDeep

/-- What a file says is what is taken in from its content. -/
lemma ofContent_text (sandbox path : String) (content : Option String) :
    (ofContent sandbox path (content.map .text)).map Prod.fst = ofFile content := by
  cases content with
  | none => rfl
  | some text =>
    simp only [Option.map_some, ofContent, ofFile]
    rcases parse text with (_ | _) | m <;> rfl

/-- A file whose text is not nested too deeply says something. -/
lemma exists_ofFile {content : Option String}
    (h : ∀ text, content = some text → parse text ≠ .error .tooDeep) :
    ∃ m, ofFile content = .ok m := by
  cases content with
  | none => exact ⟨{}, rfl⟩
  | some text =>
    have hshallow := h text rfl
    rw [ofFile]
    rcases hparse : parse text with (_ | _) | m
    · exact ⟨{}, rfl⟩
    · exact absurd hparse hshallow
    · exact ⟨m, rfl⟩

namespace World

variable {τ : Type}

/-- An analyser as it starts, in a world of files. -/
def atStart (now ttl treeTtl : τ) (files : (sandbox path : String) → Option String) : World τ :=
  ⟨.start now ttl treeTtl, files⟩

/-- A client that answers from the files. -/
def client (w : World τ) : Client where
  execute _ _ _ _ := .timeout
  read _ sandbox path := (w.files sandbox path).map .text

/-- What reading a file of a sandbox gives. -/
def content (w : World τ) (sandbox path : String) : Option Value :=
  (w.files sandbox path).map .text

lemma contentOf_read (w : World τ) (earlier : List Call) (sandbox path : String) :
    Sandbox.contentOf (w.client.read earlier sandbox path) = w.content sandbox path := by
  cases hfile : w.files sandbox path with
  | none => simp [client, content, hfile, Sandbox.contentOf]
  | some text => simp [client, content, hfile, Sandbox.contentOf]

end World

/-! ## Changes -/

/-- What happens around the loading of manifests. -/
inductive Change (τ : Type) [Zero τ] [LE τ] where
  /-- What is remembered of one sandbox, or of all, is forgotten. -/
  | invalidate (sandbox : Option String)
  /-- Time passes. -/
  | wait (span : { d : τ // 0 ≤ d })
  /-- A file is written or, without content, removed. -/
  | write (sandbox path : String) (content : Option String)

namespace Change

variable {τ : Type} [AddZeroClass τ] [LE τ]

/-- The world after a change. -/
def after : Change τ → World τ → World τ
  | invalidate sandbox, w => { w with session := w.session.invalidate sandbox }
  | wait span, w => { w with session := w.session.atTime (w.session.now + span) }
  | write sandbox path content, w =>
    let folder := Function.update (w.files sandbox) path content
    { w with files := Function.update w.files sandbox folder }

/-- Whether a change makes an analyser forget a sandbox. -/
def Forgets (sandbox : String) : Change τ → Prop
  | invalidate removed => removed = none ∨ removed = some sandbox
  | wait _ | write .. => False

/-- Whether a change concerns a sandbox: it is made there, or everywhere. -/
def Concerns (sandbox : String) : Change τ → Prop
  | invalidate removed => removed = none ∨ removed = some sandbox
  | wait _ => True
  | write place .. => place = sandbox

instance (sandbox : String) : (c : Change τ) → Decidable (c.Concerns sandbox)
  | invalidate removed => inferInstanceAs (Decidable (removed = none ∨ removed = some sandbox))
  | wait _ => inferInstanceAs (Decidable True)
  | write place .. => inferInstanceAs (Decidable (place = sandbox))

end Change

/-- Files of a sandbox whose manifest sets a base. -/
def filesWithBase (sandbox path : String) : Option String :=
  if sandbox = "box" ∧ path = "tsconfig.json" then
    some "\x7b\"compilerOptions\":\x7b\"baseUrl\":\"src\"\x7d\x7d"
  else none

end ProjectCheck.Manifest
