import ProjectCheck.Proofs.Analysis.Fallback

/-!
# Which lint reports are usable

What a lint report says is what the objects among the messages of the objects among its results say
(`reported`): those of error level whose text is not benign, in the order of the document, each one
finding.  A report is usable if nothing stands in the way of reading that (`IsUsable`): the messages
of a result are an array of objects, or nothing, and the rule id of a message that counts can be
searched.  A usable report has exactly these findings (`givesIf_findings_results`); any other is lost
as a whole, and the project analysis that the linter was run for falls back
(`mode_project_of_unusable`).
-/

namespace ProjectCheck

namespace LintOutput

open ProjectCheck.Text

/-! ## What a report says -/

/-- The objects in an array; no other value holds any. -/
def objectsIn : Value → List (List (String × Value))
  | .list items => items.filterMap fun
    | .record members => some members
    | _ => none
  | _ => []

/-- The text of a message, whatever stands for it. -/
def messageText (message : List (String × Value)) : String :=
  ((Table.get? "message" message).getD (.text "")).plain

/-- Whether a message counts: it is of error level, and its text is not benign. -/
def counts (message : List (String × Value)) : Bool :=
  isErrorLevel message && !Content.isBenign (messageText message).toList

/-- The messages of a result that count. -/
def countedMessages (result : List (String × Value)) : List (List (String × Value)) :=
  (objectsIn (field result "messages")).filter counts

/-- The messages that count in some results, each with its result. -/
def reported (items : List Value) : List (List (String × Value) × List (String × Value)) :=
  (objectsIn (.list items)).flatMap fun result => (countedMessages result).map (result, ·)

/-- Whether a rule id holds a text; one that cannot be searched holds none. -/
def holdsPart (part : String) : Value → Bool
  | .text s => occursIn part.toList s.toList
  | .list items => items.any (· == .text part)
  | .tuple items => items.any (· == .text part)
  | .record members => members.any (·.1 == part)
  | _ => false

/-- How severe a finding of a rule is. -/
def severityBy (rule : Value) : Severity :=
  if rule.isSubstantial then
    ((ruleSeverities.find? fun rating => holdsPart rating.1 rule).map (·.2)).getD .medium
  else .low

/-- The finding about a message of a result. -/
def findingAbout (result message : List (String × Value)) : Diagnostic where
  subject := .build
  category := .eslint
  message := .text (messageText message)
  severity := severityBy (field message "ruleId")
  autoFixable := .bool (field message "fix" != .null)
  details := .record [("rule_id", field message "ruleId"),
    ("severity", field message "severity"), ("fix", field message "fix")]
  file := field result "filePath"
  line := field message "line"
  column := field message "column"

/-- The findings that a report is to have. -/
def reportedFindings (items : List Value) : List Diagnostic :=
  (reported items).map fun entry => findingAbout entry.1 entry.2

lemma mem_objectsIn {items : List Value} {members : List (String × Value)} :
    members ∈ objectsIn (.list items) ↔ .record members ∈ items := by
  rw [objectsIn, List.mem_filterMap]
  refine ⟨?_, fun h => ⟨_, h, rfl⟩⟩
  rintro ⟨item, hitem, hmembers⟩
  cases item with
  | record others =>
    obtain rfl := Option.some.inj hmembers
    exact hitem
  | _ => cases hmembers

lemma objectsIn_of_not_isSubstantial {v : Value} (h : v.isSubstantial = false) :
    objectsIn v = [] := by
  cases v with
  | list items =>
    obtain rfl : items = [] := by simpa [Value.isSubstantial] using h
    rfl
  | _ => rfl

lemma map_record_objectsIn {items : List Value}
    (h : ∀ item ∈ items, ∃ members, item = .record members) :
    (objectsIn (.list items)).map .record = items := by
  induction items with
  | nil => rfl
  | cons item rest ih =>
    obtain ⟨⟨members, rfl⟩, hrest⟩ := List.forall_mem_cons.1 h
    exact congrArg (.record members :: ·) (ih hrest)

/-! ## What stands in the way -/

/-- The messages of a result are nothing, or an array of objects. -/
def HoldsMessages (messages : Value) : Prop :=
  messages.isSubstantial = false ∨
    ∃ items, messages = .list items ∧ ∀ item ∈ items, ∃ members, item = .record members

/-- A rule id is nothing, a text or a container. -/
def IsSearchable (rule : Value) : Prop :=
  rule.isSubstantial = false ∨
    match rule with
    | .text _ | .list _ | .tuple _ | .record _ => True
    | _ => False

/-- Every result holds messages, and the rule id of every message that counts can be searched. -/
structure IsUsable (items : List Value) : Prop where
  holdsMessages : ∀ result ∈ objectsIn (.list items), HoldsMessages (field result "messages")
  isSearchable : ∀ entry ∈ reported items, IsSearchable (field entry.2 "ruleId")

/-! ## Reading one part after the other -/

section

variable {α β : Type} {step : Except Fault α} {next : α → Except Fault β} {P Q : Prop} {a : α}
  {b : β}

/-- A step gives a value if a property holds, and fails if it does not. -/
def GivesIf (step : Except Fault α) (P : Prop) (a : α) : Prop :=
  ∀ found, step = .ok found ↔ P ∧ found = a

lemma GivesIf.eq_ok (h : GivesIf step P a) (hP : P) : step = .ok a :=
  (h a).2 ⟨hP, rfl⟩

lemma givesIf_ok (a : α) : GivesIf (.ok a) True a := by
  simp [GivesIf, eq_comm]

lemma givesIf_error (why : Fault) (hP : ¬ P) : GivesIf (.error why) P a := by
  simp [GivesIf, hP]

lemma GivesIf.congr (h : GivesIf step P a) {a' : α} (hQ : Q ↔ P) (ha : a' = a) :
    GivesIf step Q a' := by
  rw [ha, propext hQ]
  exact h

lemma GivesIf.bind (h : GivesIf step P a) (hnext : GivesIf (next a) Q b) :
    GivesIf (step >>= next) (P ∧ Q) b := by
  intro found
  cases hstep : step with
  | error why =>
    refine iff_of_false (by simp [Bind.bind, Except.bind]) fun hfound => ?_
    rw [h.eq_ok hfound.1.1] at hstep
    cases hstep
  | ok first =>
    obtain ⟨hP, rfl⟩ := (h first).1 hstep
    simpa [Bind.bind, Except.bind, hP] using hnext found

lemma GivesIf.map (h : GivesIf step P a) (f : α → β) :
    GivesIf (step >>= fun a => pure (f a)) P (f a) := by
  exact (h.bind (givesIf_ok (f a))).congr (and_true P).to_iff.symm rfl

/-- Going through a list gives all values if the property holds throughout. -/
lemma givesIf_mapM {f : α → Except Fault β} {R : α → Prop} {g : α → β}
    (h : ∀ a, GivesIf (f a) (R a) (g a)) (as : List α) :
    GivesIf (as.mapM f) (∀ a ∈ as, R a) (as.map g) := by
  induction as with
  | nil =>
    simp only [List.not_mem_nil, false_imp_iff, implies_true]
    exact givesIf_ok []
  | cons a rest ih =>
    rw [List.mapM_cons, List.forall_mem_cons]
    exact (h a).bind (ih.map (g a :: ·))

end

/-! ### Rules -/

lemma ruleHolds_of_isSearchable {part : String} {rule : Value} (h : IsSearchable rule)
    (hrule : rule.isSubstantial = true) : ruleHolds part rule = .ok (holdsPart part rule) := by
  cases rule <;> simp_all [IsSearchable, ruleHolds, holdsPart]

lemma severityAmong_of_isSearchable {rule : Value} (h : IsSearchable rule)
    (hrule : rule.isSubstantial = true) (ratings : List (String × Severity)) :
    severityAmong rule ratings =
      .ok (((ratings.find? fun rating => holdsPart rating.1 rule).map (·.2)).getD .medium) := by
  induction ratings with
  | nil => rfl
  | cons rating rest ih =>
    rw [severityAmong, ruleHolds_of_isSearchable h hrule, List.find?_cons]
    cases holdsPart rating.1 rule with
    | true => rfl
    | false => exact ih

lemma givesIf_severityOfRule (rule : Value) :
    GivesIf (severityOfRule rule) (IsSearchable rule) (severityBy rule) := by
  rw [severityOfRule, severityBy]
  cases hrule : rule.isSubstantial with
  | false => simpa [IsSearchable, hrule] using givesIf_ok Severity.low
  | true =>
    by_cases h : IsSearchable rule
    · simpa [severityAmong_of_isSearchable h hrule, h] using givesIf_ok _
    · refine fun found => iff_of_false (fun hok => ?_) fun hok => h hok.1
      cases rule <;>
        simp_all [IsSearchable, severityAmong, ruleSeverities, ruleHolds, bind, Except.bind]

/-! ### Messages -/

/-- The finding of a message that counts. -/
def findingOf? (result : List (String × Value)) : Value → Option Diagnostic
  | .record message => if counts message then some (findingAbout result message) else none
  | _ => none

/-- A message can be read: it is an object, and if it counts, its rule id can be searched. -/
def IsReadable (message : Value) : Prop :=
  ∃ members, message = .record members ∧
    (counts members = true → IsSearchable (field members "ruleId"))

lemma givesIf_ofMessage? (result : List (String × Value)) (message : Value) :
    GivesIf (ofMessage? result message) (IsReadable message) (findingOf? result message) := by
  cases message with
  | record members =>
    have hskip : (Content.isBenign (messageText members).toList || !isErrorLevel members) =
        !counts members := by
      simp [counts, Bool.or_comm]
    rw [ofMessage?, findingOf?]
    change GivesIf (if (Content.isBenign (messageText members).toList ||
      !isErrorLevel members) = true then _ else _) _ _
    rw [hskip]
    cases hcounts : counts members with
    | false => exact (givesIf_ok none).congr (by simp [IsReadable, hcounts]) rfl
    | true =>
      exact ((givesIf_severityOfRule (field members "ruleId")).map _).congr
        (by simp [IsReadable, hcounts]) rfl
  | _ => exact givesIf_error _ (by simp [IsReadable])

/-! ### Results -/

lemma messagesOf_of_holdsMessages {result : List (String × Value)}
    (h : HoldsMessages (field result "messages")) :
    messagesOf result = .ok ((objectsIn (field result "messages")).map .record) := by
  rw [messagesOf]
  generalize field result "messages" = messages at h
  cases hmessages : messages.isSubstantial with
  | false =>
    rw [objectsIn_of_not_isSubstantial hmessages]
    rfl
  | true =>
    obtain hnothing | ⟨items, rfl, hitems⟩ := h
    · rw [hmessages] at hnothing
      cases hnothing
    · rw [map_record_objectsIn hitems]
      rfl

/-- Messages that are gone through although they are not an array of objects hold something else
than an object. -/
lemma exists_not_isReadable {result : List (String × Value)} {messages : List Value}
    (h : ¬ HoldsMessages (field result "messages")) (hmessages : messagesOf result = .ok messages) :
    ∃ message ∈ messages, ¬ IsReadable message := by
  rw [messagesOf] at hmessages
  generalize field result "messages" = v at h hmessages
  obtain ⟨hv, hitems⟩ := not_or.1 h
  rw [Bool.not_eq_false] at hv
  simp only [hv] at hmessages
  cases v with
  | list items =>
    cases hmessages
    by_contra! hall
    exact hitems ⟨messages, rfl, fun item hitem => (hall item hitem).imp fun _ hread => hread.1⟩
  | text s =>
    cases hmessages
    obtain ⟨c, hc⟩ := List.exists_mem_of_ne_nil s.toList (by simpa [Value.isSubstantial] using hv)
    exact ⟨_, List.mem_map_of_mem hc, by simp [IsReadable]⟩
  | record members =>
    cases hmessages
    obtain ⟨member, hmember⟩ := List.exists_mem_of_ne_nil members
      (by simpa [Value.isSubstantial] using hv)
    exact ⟨_, List.mem_map_of_mem hmember, by simp [IsReadable]⟩
  | _ => cases hmessages

lemma filterMap_findingOf? (result : List (String × Value))
    (messages : List (List (String × Value))) :
    ((messages.map .record).map (findingOf? result)).filterMap id =
      (messages.filter counts).map (findingAbout result) := by
  induction messages with
  | nil => rfl
  | cons message rest ih => cases hcounts : counts message <;> simp_all [findingOf?]

lemma givesIf_ofResult_record (result : List (String × Value)) :
    GivesIf (ofResult (.record result))
      (HoldsMessages (field result "messages") ∧
        ∀ message ∈ countedMessages result, IsSearchable (field message "ruleId"))
      ((countedMessages result).map (findingAbout result)) := by
  have hmapM := givesIf_mapM (givesIf_ofMessage? result)
  rw [ofResult, countedMessages]
  by_cases h : HoldsMessages (field result "messages")
  · rw [messagesOf_of_holdsMessages h]
    refine ((hmapM _).map (List.filterMap id)).congr ?_ (filterMap_findingOf? result _).symm
    simp [h, IsReadable]
  · -- texts and objects are gone through as well, and then break at their first part
    refine fun found => iff_of_false (fun hok => ?_) fun hok => h hok.1.1
    cases hmessages : messagesOf result with
    | error why => simp [hmessages, Bind.bind, Except.bind] at hok
    | ok messages =>
      obtain ⟨message, hmem, hnot⟩ := exists_not_isReadable h hmessages
      rw [hmessages] at hok
      have hall := ((hmapM messages).map (List.filterMap id) found).1 hok
      exact hnot (hall.1 message hmem)

/-- A result is read exactly if it is usable by itself. -/
lemma givesIf_ofResult (item : Value) :
    GivesIf (ofResult item) (IsUsable [item]) (reportedFindings [item]) := by
  cases item with
  | record result =>
    have hreported : reported [.record result] = (countedMessages result).map (result, ·) := by
      simp [reported, objectsIn]
    have husable : IsUsable [.record result] ↔ HoldsMessages (field result "messages") ∧
        ∀ message ∈ countedMessages result, IsSearchable (field message "ruleId") := by
      refine ⟨fun h => ⟨?_, ?_⟩, fun h => ⟨?_, ?_⟩⟩
      · simpa [objectsIn] using h.holdsMessages
      · simpa [hreported] using h.isSearchable
      · simpa [objectsIn] using h.1
      · simpa [hreported] using h.2
    rw [husable, reportedFindings, hreported, List.map_map]
    exact givesIf_ofResult_record result
  | _ =>
    exact (givesIf_ok []).congr
      (iff_of_true ⟨by simp [objectsIn], by simp [reported, objectsIn]⟩ trivial) rfl

/-! ### Reports -/

lemma objectsIn_cons (item : Value) (rest : List Value) :
    objectsIn (.list (item :: rest)) = objectsIn (.list [item]) ++ objectsIn (.list rest) := by
  cases item <;> rfl

lemma reported_cons (item : Value) (rest : List Value) :
    reported (item :: rest) = reported [item] ++ reported rest := by
  rw [reported, objectsIn_cons, List.flatMap_append, ← reported, ← reported]

lemma isUsable_cons {item : Value} {rest : List Value} :
    IsUsable (item :: rest) ↔ IsUsable [item] ∧ IsUsable rest := by
  constructor
  · rintro ⟨hmessages, hrules⟩
    rw [objectsIn_cons, List.forall_mem_append] at hmessages
    rw [reported_cons, List.forall_mem_append] at hrules
    exact ⟨⟨hmessages.1, hrules.1⟩, hmessages.2, hrules.2⟩
  · rintro ⟨hitem, hrest⟩
    constructor
    · rw [objectsIn_cons]
      exact List.forall_mem_append.2 ⟨hitem.holdsMessages, hrest.holdsMessages⟩
    · rw [reported_cons]
      exact List.forall_mem_append.2 ⟨hitem.isSearchable, hrest.isSearchable⟩

/-- A report is usable if each of its results is. -/
lemma isUsable_iff_forall {items : List Value} :
    IsUsable items ↔ ∀ item ∈ items, IsUsable [item] := by
  induction items with
  | nil => exact iff_of_true ⟨by simp [objectsIn], by simp [reported, objectsIn]⟩ (by simp)
  | cons item rest ih => rw [isUsable_cons, ih, List.forall_mem_cons]

lemma reportedFindings_eq_flatten (items : List Value) :
    reportedFindings items = (items.map fun item => reportedFindings [item]).flatten := by
  induction items with
  | nil => rfl
  | cons item rest ih =>
    rw [List.map_cons, List.flatten_cons, ← ih, reportedFindings, reported_cons, List.map_append,
      ← reportedFindings, ← reportedFindings]

/-- **A report has findings exactly if it is usable**, and then they are those it is to have. -/
theorem givesIf_findings_results (items : List Value) :
    GivesIf (Reading.results items).findings (IsUsable items) (reportedFindings items) := by
  rw [Reading.findings, isUsable_iff_forall, reportedFindings_eq_flatten]
  exact (givesIf_mapM givesIf_ofResult items).map List.flatten

lemma findings_read_eq_ok_of_isUsable {report : String} {items : List Value}
    (hread : read report = .results items) (h : IsUsable items) :
    (read report).findings = .ok (reportedFindings items) := by
  rw [hread]
  exact (givesIf_findings_results items).eq_ok h

lemma exists_fault_of_not_isUsable {report : String} {items : List Value}
    (hread : read report = .results items) (h : ¬ IsUsable items) :
    ∃ why, (read report).findings = .error why := by
  rw [hread]
  cases hfindings : (Reading.results items).findings with
  | error why => exact ⟨why, rfl⟩
  | ok found => exact absurd ((givesIf_findings_results items found).1 hfindings).1 h

end LintOutput

namespace Analysis

open ProjectCheck.LintOutput ProjectCheck.Sandbox ProjectCheck.Text

/-! ## What a run of the linter comes to -/

/-- A lint command is set, and it prints a report when a project is analysed in a sandbox. -/
structure PrintsLintReport {τ : Type} (a : Analyser) (client : Client) (sandbox : String)
    (s : Session τ) (command : String) (result : CommandResult) : Prop where
  isSet : lintCommandOf a.settings.compiler = some command
  answered : commandOutcome client (compilerRequest a.settings.compiler sandbox ++ s.journal)
    sandbox command a.settings.compiler.lintTimeoutMs = .ok result
  notBlank : isBlankText result.stdout.toList = false

section

variable {τ : Type} [Sub τ] [LE τ] [DecidableLE τ] {a : Analyser} {client : Client}
  {sandbox command : String} {s : Session τ} {result : CommandResult}

lemma PrintsLintReport.outcomesIn_lint
    (h : PrintsLintReport a client sandbox s command result) :
    (outcomesIn a client sandbox s).lint = (lintVerdict result).map some := by
  rw [ProjectCheck.Analysis.outcomesIn_lint, lintOutcome, h.isSet]
  dsimp only
  rw [h.answered, runOf]

/-- An unusable lint report makes the analysis of a project fall back. -/
lemma mode_project_of_unusable (h : PrintsLintReport a client sandbox s command result)
    {why : LintOutput.Fault} (hfault : (read result.stdout).findings = .error why)
    (hclient : a.client = some client) (files : List MemoryFile) :
    ∃ report, ((project a files sandbox).runIn s).1 = .ok report ∧ report.mode = .fallback := by
  have hlint : (outcomesIn a client sandbox s).lint = .error (.lint why) := by
    rw [h.outcomesIn_lint, lintVerdict, h.notBlank, hfault]
    rfl
  have hnone : (outcomesIn a client sandbox s).report? = none :=
    report?_eq_none_iff_runs.2 (.inl (.inr (.inl ⟨_, hlint⟩)))
  obtain ⟨entries, hproject⟩ := runIn_project a sandbox s files
  rw [hclient, Option.bind_some, hnone] at hproject
  exact ⟨_, congrArg Prod.fst hproject, rfl⟩

/-- The linter ends with the findings of a usable report. -/
lemma outcomesIn_lint_of_usable (h : PrintsLintReport a client sandbox s command result)
    {ds : List Diagnostic} (hfindings : (read result.stdout).findings = .ok ds) :
    (outcomesIn a client sandbox s).lint = .ok (some { detector := .lint, findings := ds }) := by
  rw [h.outcomesIn_lint, lintVerdict, h.notBlank, hfindings]
  rfl

end

lemma read_of_readJson {report : String} {v : Value} (h : Value.readJson report.toList = .ok v)
    (hv : ∀ items, v ≠ .list items) : LintOutput.read report = .unexpected v.kindName := by
  rw [LintOutput.read, h]
  cases v with
  | list items => exact absurd rfl (hv items)
  | _ => rfl

/-- **What becomes of a lint report.**  A text that is no JSON, and one whose top level is no array,
give no findings and one warning.  An array that is usable gives exactly one finding for each object
among the messages of each object in it that is of error level and not benign, in the order of the
document, and a project analysis that the linter printed it for takes them in.  An array that is not
usable gives nothing: reading it is broken off, whatever else it holds, and the project analysis
falls back to the files in memory. -/
theorem lintFindings_of_report {τ : Type} [Sub τ] [LE τ] [DecidableLE τ] (report : String)
    (s : Session τ) :
    (Value.readJson report.toList = .error .malformed →
      (lintFindings report).runIn s =
        (.ok [], s.since [] [.warning "eslint_output_unparseable" []])) ∧
    (∀ v, Value.readJson report.toList = .ok v → (∀ items, v ≠ .list items) →
      (lintFindings report).runIn s =
        (.ok [], s.since [] [.warning "eslint_output_unexpected" [("shape", .text v.kindName)]])) ∧
    ∀ items, Value.readJson report.toList = .ok (.list items) →
      (IsUsable items →
        (lintFindings report).runIn s = (.ok (reportedFindings items), s) ∧
        ∀ a client sandbox command result, PrintsLintReport a client sandbox s command result →
          result.stdout = report →
          (outcomesIn a client sandbox s).lint =
            .ok (some { detector := .lint, findings := reportedFindings items })) ∧
      (¬ IsUsable items →
        (∃ why, (lintFindings report).runIn s = (.error (.lint why), s)) ∧
        ∀ a client sandbox command result, PrintsLintReport a client sandbox s command result →
          result.stdout = report → a.client = some client → ∀ files, ∃ found,
            ((project a files sandbox).runIn s).1 = .ok found ∧ found.mode = .fallback) := by
  rw [runIn_lintFindings]
  refine ⟨fun hjson => ?_, fun v hjson hv => ?_, fun items hjson => ?_⟩
  · rw [LintOutput.read, hjson]
    rfl
  · rw [read_of_readJson hjson hv]
    rfl
  · have hread : LintOutput.read report = .results items := by
      rw [LintOutput.read, hjson]
    rw [hread]
    refine ⟨fun husable => ?_, fun hunusable => ?_⟩
    · have hfindings := findings_read_eq_ok_of_isUsable hread husable
      refine ⟨?_, fun a client sandbox command result hprints hreport => ?_⟩
      · rw [← hread, hfindings, hread]
        rfl
      · rw [← hreport] at hfindings
        exact outcomesIn_lint_of_usable hprints hfindings
    · obtain ⟨why, hfault⟩ := exists_fault_of_not_isUsable hread hunusable
      refine ⟨⟨why, ?_⟩, fun a client sandbox command result hprints hreport hclient files => ?_⟩
      · rw [← hread, hfault, hread]
        rfl
      · rw [← hreport] at hfault
        exact mode_project_of_unusable hprints hfault hclient files

/-- A lint report with a result whose messages are a number, and behind that with a finding. -/
def brokenReport : String :=
  "[\x7b\"messages\": 5\x7d, \x7b\"messages\": [\x7b\"severity\": 2, \"message\": \"x\"\x7d]\x7d]"

/-- Not every array gives the findings in it: a result whose messages are a number takes those of all
other results along. -/
theorem not_forall_results_skipped :
    ¬ ∀ (report : String) (items : List Value), Value.readJson report.toList = .ok (.list items) →
      ((lintFindings report).runIn (Session.start (0 : Int) 300 300)).1 =
        .ok (reportedFindings items) := by
  intro h
  -- taking a text apart is what is slow in the kernel, so the characters are written out first
  have hchars : brokenReport.toList = _ :=
    (congrArg String.toList (rfl : brokenReport = String.ofList _)).trans String.toList_ofList
  obtain ⟨hjson, hbroken⟩ : (Value.readJson brokenReport.toList).isOk = true ∧
      (LintOutput.read brokenReport).findings.isOk = false := by
    rw [LintOutput.read, hchars]
    decide +kernel
  cases hread : Value.readJson brokenReport.toList with
  | error why =>
    rw [hread] at hjson
    cases hjson
  | ok v =>
    cases v with
    | list items =>
      have hok := h brokenReport items hread
      rw [runIn_lintFindings] at hok
      cases hfindings : (LintOutput.read brokenReport).findings with
      | error why =>
        rw [hfindings] at hok
        cases hok
      | ok findings =>
        rw [hfindings] at hbroken
        cases hbroken
    | _ =>
      rw [read_of_readJson hread (by simp)] at hbroken
      cases hbroken

end Analysis

end ProjectCheck
