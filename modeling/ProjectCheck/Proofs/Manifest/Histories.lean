import ProjectCheck.Proofs.Manifest.Outlook

/-!
# Loading manifests over a history

A load of a sandbox reads the manifest file exactly if no earlier one that read it is recent enough
and was not forgotten since; else it gives what that one gave (`load_after_history`).
-/

namespace ProjectCheck.Manifest

variable {τ : Type} [AddCommGroup τ] [LinearOrder τ] [IsOrderedAddMonoid τ]

/-! ## Where a remembered manifest comes from -/

/-- In a history that begins in a world, some load read a manifest of a sandbox at a time, and the
sandbox was not forgotten since. -/
def WasRead (path sandbox : String) (start : World τ) (history : List (Event τ)) (m : Manifest)
    (time : τ) : Prop :=
  ∃ before between, history = before ++ .load (some sandbox) :: between ∧
    (Event.afterAll path before start).ReadsOnLoad path sandbox ∧
    ((Event.afterAll path before start).load path (some sandbox)).1 = .ok m ∧
    (Event.afterAll path before start).session.now = time ∧
    ∀ e ∈ between, ¬ e.Forgets sandbox

section

variable {path sandbox : String} {start : World τ} {history : List (Event τ)} {e : Event τ}
  {m : Manifest} {time : τ}

omit [IsOrderedAddMonoid τ] in
lemma not_wasRead_nil : ¬ WasRead path sandbox start [] m time := by
  rintro ⟨before, between, hhistory, -⟩
  simp at hhistory

omit [IsOrderedAddMonoid τ] in
/-- Through an event behind a history, what was read stays so if the event does not forget it, and a
load may read anew. -/
lemma wasRead_concat :
    WasRead path sandbox start (history ++ [e]) m time ↔
      (¬ e.Forgets sandbox ∧ WasRead path sandbox start history m time) ∨
      (e = .load (some sandbox) ∧
        (Event.afterAll path history start).ReadsOnLoad path sandbox ∧
        ((Event.afterAll path history start).load path (some sandbox)).1 = .ok m ∧
        (Event.afterAll path history start).session.now = time) := by
  constructor
  · rintro ⟨before, between, hhistory, hreads, hsaid, htime, hkept⟩
    rcases List.eq_nil_or_concat between with rfl | ⟨between, last, rfl⟩
    · obtain ⟨rfl, hlast⟩ := List.append_inj' hhistory rfl
      exact Or.inr ⟨List.singleton_inj.1 hlast, hreads, hsaid, htime⟩
    · rw [List.concat_eq_append, ← List.cons_append, ← List.append_assoc] at hhistory
      obtain ⟨rfl, hlast⟩ := List.append_inj' hhistory rfl
      obtain rfl := List.singleton_inj.1 hlast
      refine Or.inl ⟨hkept e (by simp), before, between, rfl, hreads, hsaid, htime, ?_⟩
      exact fun other hother => hkept other (by simp [hother])
  · rintro (⟨hkeeps, before, between, rfl, hreads, hsaid, htime, hkept⟩ |
      ⟨rfl, hreads, hsaid, htime⟩)
    · refine ⟨before, between ++ [e], by simp, hreads, hsaid, htime, fun other hother => ?_⟩
      rcases List.mem_append.1 hother with hold | hlast
      · exact hkept other hold
      · rwa [List.mem_singleton.1 hlast]
    · exact ⟨history, [], rfl, hreads, hsaid, htime, by simp⟩

end

namespace Outlook

variable {path sandbox : String} {o : Outlook τ} {e : Event τ} {m : Manifest} {time : τ}

omit [IsOrderedAddMonoid τ] in
lemma lasting_eq_some_iff {ttl now : τ} {recent : Option (Manifest × τ)} :
    lasting ttl now recent = some (m, time) ↔ recent = some (m, time) ∧ ¬ ttl ≤ now - time := by
  rw [lasting, Option.filter_eq_some_iff]
  simp

omit [IsOrderedAddMonoid τ] in
/-- **One event.**  Behind an event that manifest is remembered which was before, if the event does
not forget it, or which the event has read; unless it was read too long ago. -/
lemma recent_after (h : ∀ known, o.recent = some known → ¬ o.ttl ≤ o.now - known.2) :
    (o.after path sandbox e).recent = some (m, time) ↔
      ((¬ e.Forgets sandbox ∧ o.recent = some (m, time)) ∨
        (e = .load (some sandbox) ∧ o.recent = none ∧ ofFile (o.folder path) = .ok m ∧
          o.now = time)) ∧
      ¬ o.ttl ≤ (o.after path sandbox e).now - time := by
  have hlasts : o.recent = some (m, time) → ¬ o.ttl ≤ o.now - time := h (m, time)
  cases e with
  | load place =>
    by_cases hplace : place = some sandbox
    · subst hplace
      simp only [after, if_true, loaded, Event.Forgets, not_false_eq_true, true_and]
      cases hrecent : o.recent with
      | some known =>
        rw [hrecent] at hlasts
        simp only [reduceCtorEq, false_and, or_false]
        exact ⟨fun hknown => ⟨hknown, hlasts hknown⟩, And.left⟩
      | none =>
        cases ofFile (o.folder path) with
        | error why => simp
        | ok said =>
          simp only [lasting_eq_some_iff, Option.some.injEq, Prod.mk.injEq, reduceCtorEq,
            false_or, true_and, Except.ok.injEq]
    · simp only [after, Event.Forgets, not_false_eq_true, true_and,
        Event.load.injEq, hplace, false_and, or_false]
      exact ⟨fun hknown => ⟨hknown, hlasts hknown⟩, And.left⟩
  | change c =>
    simp only [reduceCtorEq, false_and, or_false]
    cases c with
    | invalidate removed =>
      by_cases hcovers : removed = none ∨ removed = some sandbox
      · simp [after, hcovers, Event.Forgets, Change.Forgets]
      · simp only [after, Event.Forgets, Change.Forgets, hcovers,
          not_false_eq_true, true_and]
        exact ⟨fun hknown => ⟨hknown, hlasts hknown⟩, And.left⟩
    | wait span =>
      simp only [after, lasting_eq_some_iff, Event.Forgets, Change.Forgets, not_false_eq_true,
        true_and]
    | write place file content =>
      simp only [Event.Forgets, Change.Forgets, not_false_eq_true, true_and]
      rw [after]
      split <;> exact ⟨fun hknown => ⟨hknown, hlasts hknown⟩, And.left⟩

end Outlook

namespace World

variable {path sandbox : String} {start : World τ}

lemma ttl_afterAll (hdistinct : start.session.manifests.KeysDistinct) (history : List (Event τ)) :
    (Event.afterAll path history start).session.manifests.ttl = start.session.manifests.ttl := by
  induction history using List.reverseRecOn with
  | nil => rfl
  | append_singleton history e ih =>
    have hstep := outlook_after path "" e (Event.keysDistinct_afterAll path history hdistinct)
    rw [Event.afterAll_concat, ← ih]
    exact (congrArg Outlook.ttl hstep).trans Outlook.ttl_after

/-- **A whole history.**  From a world in which nothing is remembered, the manifest that is
remembered is the one that was read and not forgotten since, if this is recent enough. -/
theorem recent_afterAll (hstart : start.session.manifests.entries = []) (history : List (Event τ))
    (m : Manifest) (time : τ) :
    (Event.afterAll path history start).recent sandbox = some (m, time) ↔
      WasRead path sandbox start history m time ∧
        ¬ start.session.manifests.ttl ≤ (Event.afterAll path history start).session.now - time := by
  have hdistinct : start.session.manifests.KeysDistinct := by
    rw [Cache.KeysDistinct, hstart]
    exact List.nodup_nil
  induction history using List.reverseRecOn generalizing m time with
  | nil =>
    have hnothing : start.recent sandbox = none := by
      rw [recent, Cache.live, Cache.held, hstart]
      rfl
    simp [hnothing, not_wasRead_nil]
  | append_singleton history e ih =>
    set w := Event.afterAll path history start with hw
    have httl : w.session.manifests.ttl = start.session.manifests.ttl :=
      ttl_afterAll hdistinct history
    have hstep : (e.after path w).outlook sandbox = (w.outlook sandbox).after path sandbox e :=
      outlook_after path sandbox e (Event.keysDistinct_afterAll path history hdistinct)
    have hlater : w.session.now ≤ (e.after path w).session.now :=
      Outlook.now_le_after.trans_eq (congrArg Outlook.now hstep).symm
    have hrecent : ∀ known, w.recent sandbox = some known →
        ¬ w.session.manifests.ttl ≤ w.session.now - known.2 := by
      rintro ⟨m, time⟩ hknown
      rw [httl]
      exact ((ih m time).1 hknown).2
    have hafter : (e.after path w).recent sandbox = some (m, time) ↔ _ :=
      (iff_of_eq (congrArg (·.recent = some (m, time)) hstep)).trans
        (Outlook.recent_after (o := w.outlook sandbox) hrecent)
    rw [← hstep] at hafter
    -- What is recent enough behind the event was so before.
    have hsooner : ¬ start.session.manifests.ttl ≤ (e.after path w).session.now - time →
        ¬ start.session.manifests.ttl ≤ w.session.now - time :=
      mt fun hold => hold.trans (sub_le_sub_right hlater time)
    rw [Event.afterAll_concat, hafter, wasRead_concat, ← hw, readsOnLoad_iff]
    change (_ ∧ w.recent sandbox = some (m, time) ∨
        _ ∧ w.recent sandbox = none ∧ ofFile (w.files sandbox path) = .ok m ∧ _) ∧
      ¬ w.session.manifests.ttl ≤ _ ↔ _
    rw [httl, show w.recent sandbox = some (m, time) ↔ _ from ih m time]
    constructor
    · rintro ⟨⟨hkept, hread, -⟩ | ⟨hload, hnone, hsaid, htime⟩, hlasts⟩
      · exact ⟨.inl ⟨hkept, hread⟩, hlasts⟩
      · have hanswer := (load_of_forgotten path hnone).1.trans hsaid
        exact ⟨.inr ⟨hload, hnone, hanswer, htime⟩, hlasts⟩
    · rintro ⟨⟨hkept, hread⟩ | ⟨hload, hnone, hsaid, htime⟩, hlasts⟩
      · exact ⟨.inl ⟨hkept, hread, hsooner hlasts⟩, hlasts⟩
      · have hfile := (load_of_forgotten path hnone).1.symm.trans hsaid
        exact ⟨.inr ⟨hload, hnone, hfile, htime⟩, hlasts⟩

/-- What is seen from a sandbox behind a history depends only on what concerned this sandbox. -/
theorem outlook_afterAll_filter (hdistinct : start.session.manifests.KeysDistinct)
    (history : List (Event τ)) :
    (Event.afterAll path history start).outlook sandbox =
      (Event.afterAll path (history.filter fun e => e.Concerns sandbox) start).outlook sandbox := by
  have hfollow : ∀ history e, (Event.afterAll path (history ++ [e]) start).outlook sandbox =
      ((Event.afterAll path history start).outlook sandbox).after path sandbox e := by
    intro history e
    rw [Event.afterAll_concat]
    exact outlook_after path sandbox e (Event.keysDistinct_afterAll path history hdistinct)
  induction history using List.reverseRecOn with
  | nil => rfl
  | append_singleton history e ih =>
    rw [List.filter_append, hfollow, ih]
    by_cases hconcerns : e.Concerns sandbox
    · rw [List.filter_cons_of_pos (by simpa using hconcerns), List.filter_nil, hfollow]
    · rw [List.filter_cons_of_neg (by simpa using hconcerns), List.filter_nil, List.append_nil,
        Outlook.after_of_not_concerns hconcerns]

end World

/-! ## Loading over a history -/

section

variable (path sandbox : String) (now ttl treeTtl : τ) (files : String → String → Option String)

/-- **Loading over any history.**  A fresh analyser has gone through any loads, changes of files,
passing of time and forgetting.  Call a manifest remembered if a load of the sandbox read it, less
than the time to live ago, and the sandbox was not forgotten since.  A load asks for nothing exactly
if a manifest is remembered, and then gives this one.  Else it asks for the manifest file and for
nothing else, and gives what this says now.  It is never broken off, unless that text is nested too
deeply.  Without a sandbox or without a client there is the empty manifest, and nothing changes.
What concerned other sandboxes makes no difference. -/
theorem load_after_history (history : List (Event τ)) :
    let start := World.atStart now ttl treeTtl files
    let w := Event.afterAll path history start
    let remembered m := ∃ time, WasRead path sandbox start history m time ∧
      w.session.now - time < ttl
    (w.QuietOnLoad path sandbox ↔ ∃ m, remembered m) ∧
      (∀ m, remembered m → (w.load path (some sandbox)).1 = .ok m) ∧
      (¬ (∃ m, remembered m) → w.ReadsOnLoad path sandbox ∧
        (w.load path (some sandbox)).1 = ofFile (w.files sandbox path)) ∧
      ((∀ text, w.files sandbox path = some text → parse text ≠ .error .tooDeep) →
        ∃ m, (w.load path (some sandbox)).1 = .ok m) ∧
      w.load path none = (.ok {}, w) ∧
      (∀ place, (Manifest.of none path place).runIn w.session = (.ok {}, w.session)) ∧
      let v := Event.afterAll path (history.filter fun e => e.Concerns sandbox) start
      (v.load path (some sandbox)).1 = (w.load path (some sandbox)).1 ∧
        (v.QuietOnLoad path sandbox ↔ w.QuietOnLoad path sandbox) := by
  intro start w remembered
  have hremembered : ∀ m time, w.recent sandbox = some (m, time) ↔
      WasRead path sandbox start history m time ∧ w.session.now - time < ttl := fun m time => by
    rw [← not_le]
    exact World.recent_afterAll rfl history m time
  have hsome : w.recent sandbox ≠ none ↔ ∃ m, remembered m := by
    simp only [Option.ne_none_iff_exists', Prod.exists, hremembered]
    rfl
  have halike : w.outlook sandbox =
      (Event.afterAll path (history.filter fun e => e.Concerns sandbox) start).outlook sandbox :=
    World.outlook_afterAll_filter (Cache.keysDistinct_empty ttl) history
  refine ⟨World.quietOnLoad_iff.trans hsome, ?remembered, ?forgotten, ?shallow, rfl, ?nowhere,
    ?answer, ?quiet⟩
  case remembered =>
    rintro m ⟨time, hm⟩
    rw [World.load_of_recent ((hremembered m time).2 hm)]
  case forgotten =>
    intro hnone
    have hforgotten : w.recent sandbox = none := not_not.1 (mt hsome.1 hnone)
    exact ⟨World.readsOnLoad_iff.2 hforgotten, (World.load_of_forgotten path hforgotten).1⟩
  case shallow =>
    intro hshallow
    cases hrecent : w.recent sandbox with
    | some known => exact ⟨known.1, congrArg Prod.fst (World.load_of_recent hrecent)⟩
    | none =>
      obtain ⟨m, hm⟩ := exists_ofFile hshallow
      exact ⟨m, (World.load_of_forgotten path hrecent).1.trans hm⟩
  case nowhere => exact fun place => by cases place <;> rfl
  case answer => rw [World.fst_load, World.fst_load, halike]
  case quiet =>
    rw [World.quietOnLoad_iff, World.quietOnLoad_iff]
    exact not_congr (iff_of_eq (congrArg (·.recent = none) halike.symm))

end

/-- What was read 299 seconds ago is given out, though its file is gone by now and another sandbox
was read in between. -/
theorem load_after_removal :
    let history : List (Event Int) :=
      [.load (some "box"), .change (.write "box" "tsconfig.json" none), .load (some "bin"),
        .change (.wait ⟨299, by decide⟩)]
    let w := Event.afterAll "tsconfig.json" history (.atStart (0 : Int) 300 30 filesWithBase)
    w.files "box" "tsconfig.json" = none ∧ w.QuietOnLoad "tsconfig.json" "box" ∧
      (w.load "tsconfig.json" (some "box")).1 = .ok { baseUrl := some "src" } := by
  intro history w
  have hsaid : (ofFile (filesWithBase "box" "tsconfig.json")).toOption =
      some { baseUrl := some "src" } := by decide +kernel
  have hsaid : ofFile (filesWithBase "box" "tsconfig.json") = .ok { baseUrl := some "src" } := by
    cases h : ofFile (filesWithBase "box" "tsconfig.json") with
    | ok m => rw [h] at hsaid; exact congrArg Except.ok (Option.some.inj hsaid)
    | error why => rw [h] at hsaid; cases hsaid
  obtain ⟨hquiet, hanswer, -⟩ :=
    load_after_history "tsconfig.json" "box" (0 : Int) 300 30 filesWithBase history
  have hnow : w.session.now = 299 := by
    simp [w, history, Event.afterAll, Event.after, Change.after, Session.atTime, World.atStart,
      Session.start]
  have hfirst : (World.atStart (0 : Int) 300 30 filesWithBase).recent "box" = none := rfl
  have hread : ∃ time, WasRead "tsconfig.json" "box" (.atStart (0 : Int) 300 30 filesWithBase)
      history { baseUrl := some "src" } time ∧ w.session.now - time < 300 := by
    have hanswer := (World.load_of_forgotten "tsconfig.json" hfirst).1.trans hsaid
    refine ⟨0, ⟨[], _, rfl, World.readsOnLoad_iff.2 hfirst, hanswer, rfl, ?kept⟩, ?soon⟩
    case kept => simp [Event.Forgets, Change.Forgets]
    case soon =>
      rw [hnow]
      decide
  exact ⟨rfl, hquiet.2 ⟨_, hread⟩, hanswer _ hread⟩

end ProjectCheck.Manifest
