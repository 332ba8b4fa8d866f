import ProjectCheck.Sandbox.Access

/-!
# Loading manifests

The manifest of a sandbox is read when it is asked for and then remembered until it expires.  A
project without a manifest, or with one that cannot be read, has an empty manifest, and that is
remembered too.

Loading takes three steps: looking into the memory, reading the file, and storing what it says.
`load` takes them one after the other.  They are functions of their own, since other steps of a
session may come between them.
-/

namespace ProjectCheck.Manifest

variable {τ : Type}

/-- What the content of a manifest file says, and what the log says about it. -/
def ofContent (sandbox path : String) : Option Value → Except Interruption (Manifest × LogEntry)
  | none =>
    .ok ({}, .info "manifest_unavailable" [("sandbox_id", .text sandbox), ("path", .text path)])
  | some (.text content) =>
    match parse content with
    | .error .malformed =>
      .ok ({}, .info "manifest_parse_failed" [("sandbox_id", .text sandbox), ("path", .text path)])
    | .error .tooDeep => .error .tooDeep
    | .ok manifest =>
      .ok (manifest, .info "manifest_loaded"
        [("sandbox_id", .text sandbox), ("base_url", .ofOption .text manifest.baseUrl),
         ("alias_count", .ofNat manifest.aliases.length)])
  | some _ => .error .notText

variable [Sub τ] [LE τ] [DecidableLE τ]

/-- The manifest that is remembered of a sandbox. -/
def remembered (sandbox : String) : Work τ (Option Manifest) := do
  let s ← get
  let (known, manifests) := s.manifests.get sandbox s.now
  set { s with manifests }
  return known

/-- Takes in what was read as the manifest of a sandbox, and remembers it. -/
def store (sandbox path : String) (content : Option Value) : Work τ Manifest := do
  let (manifest, entry) ← liftExcept (ofContent sandbox path content)
  Work.note entry
  modify fun s => { s with manifests := s.manifests.put sandbox (some manifest) s.now }
  return manifest
where
  /-- Breaks off where a result could not be had. -/
  liftExcept {α : Type} : Except Interruption α → Work τ α
    | .ok a => return a
    | .error why => throw why

/-- The manifest of a sandbox, from memory or from its file. -/
def load (client : Client) (path sandbox : String) : Work τ Manifest := do
  match ← remembered sandbox with
  | some manifest => return manifest
  | none => store sandbox path (← Sandbox.readContent client sandbox path)

/-- The manifest that counts for a sandbox; it is empty without a sandbox or without a client. -/
def of (client : Option Client) (path : String) (sandbox : Option String) : Work τ Manifest :=
  match sandbox, client with
  | some sandbox, some client => load client path sandbox
  | _, _ => return {}

end ProjectCheck.Manifest
