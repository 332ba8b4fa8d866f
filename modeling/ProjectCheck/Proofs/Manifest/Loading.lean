import ProjectCheck.Manifest.Loader
import ProjectCheck.Proofs.Cache.Lookup
import ProjectCheck.Proofs.Session.Answers

/-!
# What loading a manifest does

A manifest that is remembered is given out without a request (`runIn_load_of_remembered`); else
there is one request, for the manifest file, and what it says is stored (`runIn_load_of_forgotten`,
`runIn_store_of_ok`).  That is all it does (`runIn_load_cases`).  So loading asks for the manifest
file at most once and for nothing else (`journal_load`), and where that file is a text or absent
only a text that is nested too deeply breaks it off (`load_text_or_absent`).

Where no request changes that file, loading again comes to the same (`fst_runIn_load_load`), whether
the manifest is still remembered by then or not.
-/

namespace ProjectCheck.Manifest

variable {τ : Type}

/-- The content of a manifest file that is a text or absent says something, unless it is a text that
is nested too deeply. -/
lemma ofContent_text_or_absent (sandbox path : String) {content : Option Value}
    (h : content = none ∨ ∃ text, content = some (.text text)) :
    (∃ m entry, ofContent sandbox path content = .ok (m, entry)) ∨
      ∃ text, content = some (.text text) ∧ parse text = .error .tooDeep ∧
        ofContent sandbox path content = .error .tooDeep := by
  rcases h with rfl | ⟨text, rfl⟩
  · exact Or.inl ⟨_, _, rfl⟩
  · rcases hparse : parse text with (_ | _) | m
    · exact Or.inl ⟨_, _, by simp only [ofContent, hparse]; rfl⟩
    · exact Or.inr ⟨text, rfl, hparse, by simp only [ofContent, hparse]⟩
    · exact Or.inl ⟨_, _, by simp only [ofContent, hparse]; rfl⟩

/-- What was read as a manifest file can be taken in: there is no such file, or it is a text that is
not nested too deeply. -/
def IsUsable (content : Option Value) : Prop :=
  content = none ∨ ∃ text, content = some (.text text) ∧ parse text ≠ .error .tooDeep

lemma exists_ofContent_of_isUsable (sandbox path : String) {content : Option Value}
    (h : IsUsable content) : ∃ m entry, ofContent sandbox path content = .ok (m, entry) := by
  have htext : content = none ∨ ∃ text, content = some (.text text) :=
    h.imp_right fun ⟨text, hcontent, _⟩ => ⟨text, hcontent⟩
  rcases ofContent_text_or_absent sandbox path htext with hsaid | ⟨text, hcontent, hdeep, -⟩
  · exact hsaid
  · rcases h with hnone | ⟨other, hother, hshallow⟩
    · rw [hcontent] at hnone
      contradiction
    · rw [hcontent, Option.some.injEq, Value.text.injEq] at hother
      exact absurd (hother ▸ hdeep) hshallow

/-- No request from this session on changes the content of a manifest file. -/
def IsSteady (client : Client) (path sandbox : String) (s : Session τ) : Prop :=
  ∀ calls, Sandbox.contentOf (client.read (calls ++ s.journal) sandbox path) =
    Sandbox.contentOf (client.read s.journal sandbox path)

/-- A steady manifest file stays steady through requests, and stays what it is. -/
lemma IsSteady.of_journal {client : Client} {path sandbox : String} {s t : Session τ}
    (h : IsSteady client path sandbox s) (calls : List Call)
    (hjournal : t.journal = calls ++ s.journal) :
    IsSteady client path sandbox t ∧
      Sandbox.contentOf (client.read t.journal sandbox path) =
        Sandbox.contentOf (client.read s.journal sandbox path) := by
  have hsame : Sandbox.contentOf (client.read t.journal sandbox path) =
      Sandbox.contentOf (client.read s.journal sandbox path) := by
    rw [hjournal, h]
  refine ⟨fun more => ?_, hsame⟩
  rw [hsame, hjournal, ← List.append_assoc, h]

variable [Sub τ] [LE τ] [DecidableLE τ]

lemma runIn_remembered (sandbox : String) (s : Session τ) :
    (remembered sandbox).runIn s =
      (.ok (s.manifests.get sandbox s.now).1,
        { s with manifests := (s.manifests.get sandbox s.now).2 }) :=
  rfl

/-! ## Storing -/

lemma runIn_store_of_ok {sandbox path : String} {content : Option Value} {m : Manifest}
    {entry : LogEntry} (h : ofContent sandbox path content = .ok (m, entry)) (s : Session τ) :
    (store sandbox path content).runIn s =
      (.ok m, { s with
        log := entry :: s.log
        manifests := s.manifests.put sandbox (some m) s.now }) := by
  simp only [store, h]
  rfl

lemma runIn_store_of_error {sandbox path : String} {content : Option Value} {why : Interruption}
    (h : ofContent sandbox path content = .error why) (s : Session τ) :
    (store sandbox path content).runIn s = (.error why, s) := by
  simp only [store, h]
  rfl

/-! ## Loading -/

/-- In a sandbox that can be asked, the manifest that counts is loaded. -/
lemma of_some (client : Client) (path sandbox : String) :
    (Manifest.of (some client) path (some sandbox) : Work τ Manifest) =
      load client path sandbox :=
  rfl

/-- A manifest that is remembered costs no request. -/
lemma runIn_load_of_remembered (client : Client) (path : String) {sandbox : String}
    {s : Session τ} {m : Manifest} (h : (s.manifests.get sandbox s.now).1 = some m) :
    (load client path sandbox).runIn s =
      (.ok m, { s with manifests := (s.manifests.get sandbox s.now).2 }) := by
  rw [load, Work.runIn_bind_of_ok (runIn_remembered sandbox s), h]
  rfl

/-- A manifest that is not remembered is read once. -/
lemma runIn_load_of_forgotten (client : Client) (path : String) {sandbox : String}
    {s : Session τ} (h : (s.manifests.get sandbox s.now).1 = none) :
    (load client path sandbox).runIn s =
      (store sandbox path (Sandbox.contentOf (client.read s.journal sandbox path))).runIn
        { s with
          manifests := (s.manifests.get sandbox s.now).2
          journal := .read sandbox path :: s.journal } := by
  rw [load, Work.runIn_bind_of_ok (runIn_remembered sandbox s), h]
  exact Work.runIn_bind_of_ok (Sandbox.runIn_readContent client sandbox path _)

/-- All that loading does.  It gives out what is remembered; or it reads the manifest file and
is broken off by what that says or stores it. -/
theorem runIn_load_cases (client : Client) (path sandbox : String) (s : Session τ) :
    let read := ofContent sandbox path (Sandbox.contentOf (client.read s.journal sandbox path))
    let looked := (s.manifests.get sandbox s.now).2
    let journal := .read sandbox path :: s.journal
    (∃ m, (s.manifests.get sandbox s.now).1 = some m ∧
      (load client path sandbox).runIn s = (.ok m, { s with manifests := looked })) ∨
    (∃ why, read = .error why ∧
      (load client path sandbox).runIn s = (.error why, { s with manifests := looked, journal })) ∨
    (∃ m entry, read = .ok (m, entry) ∧
      (load client path sandbox).runIn s = (.ok m, { s with
        manifests := looked.put sandbox (some m) s.now
        journal
        log := entry :: s.log })) := by
  cases hknown : (s.manifests.get sandbox s.now).1 with
  | some m => exact Or.inl ⟨m, rfl, runIn_load_of_remembered client path hknown⟩
  | none =>
    rw [runIn_load_of_forgotten client path hknown]
    rcases hread : ofContent sandbox path (Sandbox.contentOf (client.read s.journal sandbox path))
      with why | ⟨m, entry⟩
    · exact Or.inr (Or.inl ⟨why, rfl, runIn_store_of_error hread _⟩)
    · exact Or.inr (Or.inr ⟨m, entry, rfl, runIn_store_of_ok hread _⟩)

/-- Loading asks for the manifest file at most once, and for nothing else. -/
theorem journal_load (client : Client) (path sandbox : String) (s : Session τ) :
    ((load client path sandbox).runIn s).2.journal = s.journal ∨
      ((load client path sandbox).runIn s).2.journal = .read sandbox path :: s.journal := by
  rcases runIn_load_cases client path sandbox s with
    ⟨m, -, hrun⟩ | ⟨why, -, hrun⟩ | ⟨m, entry, -, hrun⟩
  · exact Or.inl (by rw [hrun])
  · exact Or.inr (by rw [hrun])
  · exact Or.inr (by rw [hrun])

/-- Loading leaves the trees and the time as they are. -/
lemma trees_load (client : Client) (path sandbox : String) (s : Session τ) :
    ((load client path sandbox).runIn s).2.trees = s.trees ∧
      ((load client path sandbox).runIn s).2.now = s.now := by
  rcases runIn_load_cases client path sandbox s with
      ⟨m, -, hrun⟩ | ⟨why, -, hrun⟩ | ⟨m, entry, -, hrun⟩ <;>
    rw [hrun] <;> exact ⟨rfl, rfl⟩

/-- The manifest that counts for a sandbox costs no request but one for the manifest file. -/
theorem journal_of (client : Option Client) (path : String) (sandbox : Option String)
    (s : Session τ) :
    ((Manifest.of client path sandbox).runIn s).2.journal = s.journal ∨
      ∃ name, sandbox = some name ∧
        ((Manifest.of client path sandbox).runIn s).2.journal = .read name path :: s.journal := by
  rcases sandbox with _ | name
  · exact Or.inl rfl
  rcases client with _ | client
  · exact Or.inl rfl
  rcases journal_load client path name s with hsame | hread
  · exact Or.inl hsame
  · exact Or.inr ⟨name, rfl, hread⟩

/-- Loading a manifest file that is a text or absent succeeds, unless the text is nested too
deeply. -/
theorem load_text_or_absent (client : Client) (path sandbox : String) (s : Session τ)
    (h : Sandbox.contentOf (client.read s.journal sandbox path) = none ∨
      ∃ text, Sandbox.contentOf (client.read s.journal sandbox path) = some (.text text)) :
    (∃ m, ((load client path sandbox).runIn s).1 = .ok m) ∨
      ∃ text, Sandbox.contentOf (client.read s.journal sandbox path) = some (.text text) ∧
        parse text = .error .tooDeep ∧
        ((load client path sandbox).runIn s).1 = .error .tooDeep := by
  cases hknown : (s.manifests.get sandbox s.now).1 with
  | some m => exact Or.inl ⟨m, by rw [runIn_load_of_remembered client path hknown]⟩
  | none =>
    rw [runIn_load_of_forgotten client path hknown]
    rcases ofContent_text_or_absent sandbox path h with ⟨m, entry, hm⟩ | ⟨text, htext, hdeep, hm⟩
    · exact Or.inl ⟨m, by rw [runIn_store_of_ok hm]⟩
    · exact Or.inr ⟨text, htext, hdeep, by rw [runIn_store_of_error hm]⟩

/-! ## Loading again -/

/-- What loading comes to: what is remembered, or else what the manifest file says. -/
lemma fst_runIn_load (client : Client) (path sandbox : String) (s : Session τ) :
    ((load client path sandbox).runIn s).1 =
      match (s.manifests.get sandbox s.now).1 with
      | some m => .ok m
      | none => (ofContent sandbox path
          (Sandbox.contentOf (client.read s.journal sandbox path))).map Prod.fst := by
  cases hknown : (s.manifests.get sandbox s.now).1 with
  | some m => rw [runIn_load_of_remembered client path hknown]
  | none =>
    rw [runIn_load_of_forgotten client path hknown]
    rcases hread : ofContent sandbox path (Sandbox.contentOf (client.read s.journal sandbox path))
      with why | ⟨m, entry⟩
    · rw [runIn_store_of_error hread]
      rfl
    · rw [runIn_store_of_ok hread]
      rfl

section

variable {client : Client} {path sandbox : String} {s : Session τ}

/-- Requests and log entries do not change what loading a steady manifest file comes to. -/
lemma fst_runIn_load_since (h : IsSteady client path sandbox s) (calls : List Call)
    (entries : List LogEntry) :
    ((load client path sandbox).runIn (s.since calls entries)).1 =
      ((load client path sandbox).runIn s).1 := by
  rw [fst_runIn_load, fst_runIn_load, Session.manifests_since, Session.now_since,
    (h.of_journal calls (Session.journal_since s calls entries)).2]

/-- Loading keeps a manifest file steady, and what it says. -/
lemma IsSteady.load (h : IsSteady client path sandbox s) :
    IsSteady client path sandbox ((Manifest.load client path sandbox).runIn s).2 ∧
      Sandbox.contentOf
          (client.read ((Manifest.load client path sandbox).runIn s).2.journal sandbox path) =
        Sandbox.contentOf (client.read s.journal sandbox path) := by
  rcases journal_load client path sandbox s with hjournal | hjournal
  · exact h.of_journal [] hjournal
  · exact h.of_journal [.read sandbox path] hjournal

/-- Loading a steady manifest file again comes to the same. -/
lemma fst_runIn_load_load (h : IsSteady client path sandbox s) :
    ((load client path sandbox).runIn ((load client path sandbox).runIn s).2).1 =
      ((load client path sandbox).runIn s).1 := by
  have hread := h.load.2
  cases hknown : (s.manifests.get sandbox s.now).1 with
  | some m =>
    have hrun := runIn_load_of_remembered client path hknown
    rw [fst_runIn_load, hrun]
    simp only [Cache.fst_get_get, hknown]
  | none =>
    have hrun := runIn_load_of_forgotten client path hknown
    rcases hsaid : ofContent sandbox path
      (Sandbox.contentOf (client.read s.journal sandbox path)) with why | ⟨m, entry⟩
    · rw [runIn_store_of_error hsaid] at hrun
      rw [fst_runIn_load, hread, hrun]
      simp only [Cache.fst_get_get, hknown, hsaid]
      rfl
    · rw [runIn_store_of_ok hsaid] at hrun
      rw [fst_runIn_load, hread, hrun]
      -- What was stored may expire at once, and then the file says the same again.
      rcases Cache.get_put_self_cases sandbox (some m) s.now (s.manifests.get sandbox s.now).2 with
        hfound | hexpired
      · simp only [hfound]
      · simp only [hexpired, hsaid]
        rfl

end

end ProjectCheck.Manifest
