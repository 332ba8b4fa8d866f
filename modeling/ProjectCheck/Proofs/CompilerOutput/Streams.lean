import ProjectCheck.Proofs.CompilerOutput.Blocks
import ProjectCheck.Sandbox.Response

/-!
# Diagnostics in two streams

The compiler's two streams are read as one text.  The diagnostics of that text are those of the
first stream and then those of the second, with one exception: where the first stream ends inside a
message and the second begins with other text, that text continues the message.  Nothing else is
changed (`parse_combinedOutput`).

Only the last line with a location matters.  If it is no head line, or if there is none, nothing can
be continued (`ofLines_append_of_not_leavesOpen`); if it is one, its message takes in what stands in
front of the next location (`ofLines_append_of_head`).
-/

namespace ProjectCheck.CompilerOutput

open ProjectCheck.Number ProjectCheck.Text

/-! ## The end of one stream and the beginning of the next -/

/-- The last line with a location is a head line, so that its message goes on to the end. -/
def LeavesOpen (xs : List (List Char)) : Prop :=
  ∃ before line after, xs = before ++ line :: after ∧ (head? line).isSome = true ∧
    ∀ l ∈ after, ¬ HoldsLocation l.tail

/-- The lines in front of the first one with a location, without blank lines and summaries. -/
def opening (xs : List (List Char)) : List (List Char) :=
  (xs.takeWhile fun l => ¬ HoldsLocation l.tail).filter fun l => l ≠ [] ∧ ¬ IsSummary l

/-- The lines at the beginning are those that would continue a message. -/
lemma continuation_eq_opening (xs : List (List Char)) : continuation xs = opening xs := by
  have hlocation : ∀ l, (!hasLocation l) = decide (¬ HoldsLocation l.tail) := fun l => by
    rw [Bool.eq_iff_iff]
    simp [← hasLocation_iff]
  have hsummary : ∀ l : List Char,
      (!l.isEmpty && !isSummary l) = decide (l ≠ [] ∧ ¬ IsSummary l) := fun l => by
    rw [Bool.eq_iff_iff]
    simp [← isSummary_iff]
  simp only [continuation, opening, hlocation, hsummary]

/-- Either no line has a location, or there is a last one. -/
lemma exists_last_location (xs : List (List Char)) :
    (∀ l ∈ xs, hasLocation l = false) ∨
      ∃ before line after, xs = before ++ line :: after ∧ hasLocation line = true ∧
        ∀ l ∈ after, hasLocation l = false := by
  induction xs with
  | nil => exact Or.inl (by simp)
  | cons x xs ih =>
    rcases ih with hfree | ⟨before, line, after, rfl, hline, hafter⟩
    · cases hx : hasLocation x with
      | true => exact Or.inr ⟨[], x, xs, rfl, hx, hfree⟩
      | false => exact Or.inl (by simpa [hx] using hfree)
    · exact Or.inr ⟨x :: before, line, after, rfl, hline, hafter⟩

variable {xs ys before after : List (List Char)} {line : List Char} {head : Head}

/-- Where nothing is left open, the lines that follow change nothing. -/
lemma ofLines_append_of_not_leavesOpen (h : ¬ LeavesOpen xs) (ys : List (List Char)) :
    ofLines (xs ++ ys) =
      (do
        let first ← ofLines xs
        let second ← ofLines ys
        return first ++ second) := by
  rcases exists_last_location xs with hfree | ⟨before, line, after, rfl, hline, hafter⟩
  · rw [ofLines_append_of_free hfree, ofLines_of_free hfree]
    cases ofLines ys <;> rfl
  · have hhead : head? line = none := by
      by_contra hsome
      exact h ⟨before, line, after, rfl, Option.isSome_iff_ne_none.2 hsome, fun l hl =>
        hasLocation_eq_false_iff.1 (hafter l hl)⟩
    have hcut := continuation_cons_of_location hline
    rw [List.append_assoc, List.cons_append, ofLines_append before (hcut _),
      ofLines_append before (hcut _), ofLines_cons_of_none hhead, ofLines_cons_of_none hhead,
      ofLines_append_of_free hafter, ofLines_of_free hafter]
    cases ofLines before with
    | error fault => rfl
    | ok first =>
      cases ofLines ys with
      | error fault => rfl
      | ok second =>
        have hnil : first ++ [] ++ second = first ++ second := by rw [List.append_nil]
        exact congrArg Except.ok hnil.symm

/-! ## Prolonged messages -/

/-- A diagnostic with more lines joined to its message, which is `text`. -/
def prolong (d : Diagnostic) (text : String) (more : List (List Char)) : Diagnostic :=
  { d with message := .text (text ++ String.ofList (more.flatMap (' ' :: ·))) }

/-- The message of a diagnostic goes on with the lines that would continue it. -/
lemma diagnosticOf_append {diagnostic : Diagnostic} (hafter : ∀ l ∈ after, hasLocation l = false)
    (h : diagnosticOf line head after = .ok diagnostic) (ys : List (List Char)) :
    ∃ text, diagnostic.message = .text text ∧ diagnosticOf line head (after ++ ys) =
      .ok (prolong diagnostic text (continuation ys)) := by
  obtain ⟨lineNumber, columnNumber, hline, hcolumn⟩ := exists_readDigits_of_diagnosticOf h
  rw [diagnosticOf, hline, hcolumn] at h ⊢
  obtain rfl := Except.ok.inj h
  refine ⟨_, rfl, ?_⟩
  rw [continuation_append_of_free hafter, joinWith_cons, joinWith_cons, List.flatMap_append,
    ← List.append_assoc, String.ofList_append]
  rfl

/-! ## One text of two -/

/-- Where the last line with a location is a head line, its message takes in what stands in front of
the next location. -/
lemma ofLines_append_of_head (hhead : head? line = some head)
    (hafter : ∀ l ∈ after, hasLocation l = false) {init second : List Diagnostic}
    {last : Diagnostic} (hbefore : ofLines before = .ok init)
    (hlast : diagnosticOf line head after = .ok last) (hsecond : ofLines ys = .ok second) :
    ofLines (before ++ line :: after) = .ok (init ++ [last]) ∧
      ∃ text, last.message = .text text ∧ ofLines (before ++ line :: after ++ ys) =
        .ok (init ++ prolong last text (continuation ys) :: second) := by
  have hcut := continuation_cons_of_location (hasLocation_of_head? hhead)
  obtain ⟨text, htext, hprolonged⟩ := diagnosticOf_append hafter hlast ys
  constructor
  · rw [ofLines_append before (hcut _), hbefore, ofLines_cons_of_some hhead, hlast,
      ofLines_of_free hafter]
    rfl
  · refine ⟨text, htext, ?_⟩
    rw [List.append_assoc, List.cons_append, ofLines_append before (hcut _), hbefore,
      ofLines_cons_of_some hhead, hprolonged, ofLines_append_of_free hafter, hsecond]
    rfl

lemma lines_append_feed (a b : String) : lines (a ++ "\n" ++ b) = lines a ++ lines b := by
  have htext : (a ++ "\n" ++ b).toList = a.toList ++ '\n' :: b.toList := by simp
  rw [lines_eq, lines_eq, lines_eq, htext, pieces_append_cons, List.map_append]

/-- An empty text is one blank line. -/
lemma ofLines_append_empty (xs : List (List Char)) : ofLines (xs ++ lines "") = ofLines xs := by
  have hblank : (lines "").filter (!·.isEmpty) = [] := rfl
  rw [← ofLines_filter, List.filter_append, hblank, List.append_nil, ofLines_filter]

/-- The lines of the second stream are read behind those of the first, whether or not one of them
is empty. -/
lemma parse_combinedOutput_eq (r : CommandResult) :
    parse r.combinedOutput = ofLines (lines r.stdout ++ lines r.stderr) := by
  obtain ⟨exitCode, stdout, stderr⟩ := r
  dsimp only [CommandResult.combinedOutput, parse]
  by_cases hout : stdout = ""
  · have hcombined : "\n".intercalate ([stdout, stderr].filter (!·.isEmpty)) = stderr := by
      by_cases herr : stderr = "" <;> simp [hout, herr]
    rw [hcombined, hout]
    rfl
  · by_cases herr : stderr = ""
    · have hcombined : "\n".intercalate ([stdout, stderr].filter (!·.isEmpty)) = stdout := by
        simp [hout, herr]
      rw [hcombined, herr, ofLines_append_empty]
    · have hcombined : "\n".intercalate ([stdout, stderr].filter (!·.isEmpty)) =
          stdout ++ "\n" ++ stderr := by
        simp [hout, herr]
      rw [hcombined, lines_append_feed]

/-! ## Diagnostics of both streams -/

/-- **Where nothing is continued.**  Nothing of the second stream gets into the first if the first
leaves no message open or the second begins with no line that continues one. -/
theorem parse_combinedOutput_of_opening (r : CommandResult)
    (h : LeavesOpen (lines r.stdout) → opening (lines r.stderr) = []) :
    parse r.combinedOutput =
      (do
        let first ← parse r.stdout
        let second ← parse r.stderr
        return first ++ second) := by
  rw [parse_combinedOutput_eq]
  by_cases hopen : LeavesOpen (lines r.stdout)
  · exact ofLines_append _ ((continuation_eq_opening _).trans (h hopen))
  · exact ofLines_append_of_not_leavesOpen hopen _

/-- No number of a location in an output has too many digits. -/
def ShortNumbers (output : String) : Prop :=
  ∀ line column, IsNumeral line → IsNumeral column → location line column <:+: output.toList →
    line.length ≤ integerDigitLimit ∧ column.length ≤ integerDigitLimit

namespace ShortNumbers

variable {output : String}

lemma of_length_le (h : output.toList.length ≤ integerDigitLimit) : ShortNumbers output := by
  intro line column _ _ hin
  have hlen := hin.length_le
  simp only [location, List.length_cons, List.length_append] at hlen
  omega

lemma isShort (h : ShortNumbers output) (hmem : line ∈ lines output) (hhead : head? line = some head) :
    head.IsShort := by
  obtain ⟨hline, hcolumn, hin⟩ := location_of_head? hhead
  exact h _ _ hline hcolumn
    (hin.trans ((List.tail_suffix line).isInfix.trans (infix_of_mem_lines hmem)))

/-- Any of the lines of such an output can be read. -/
lemma exists_ofLines (h : ShortNumbers output) (hxs : ∀ l ∈ xs, l ∈ lines output) :
    ∃ diagnostics, ofLines xs = .ok diagnostics :=
  CompilerOutput.exists_ofLines fun l hl _ hhead => h.isShort (hxs l hl) hhead

end ShortNumbers

/-- **Where a message is continued.**  The message of the last diagnostic of the first stream takes
in the lines at the beginning of the second. -/
theorem parse_combinedOutput_of_leavesOpen (r : CommandResult) (hout : ShortNumbers r.stdout)
    (hopen : LeavesOpen (lines r.stdout)) {second : List Diagnostic}
    (hsecond : parse r.stderr = .ok second) :
    ∃ init last text, parse r.stdout = .ok (init ++ [last]) ∧ last.message = .text text ∧
      parse r.combinedOutput =
        .ok (init ++ prolong last text (opening (lines r.stderr)) :: second) := by
  obtain ⟨before, line, after, hlines, hsome, hrest⟩ := hopen
  obtain ⟨head, hhead⟩ := Option.isSome_iff_exists.1 hsome
  have hafter : ∀ l ∈ after, hasLocation l = false := fun l hl =>
    hasLocation_eq_false_iff.2 (hrest l hl)
  obtain ⟨init, hinit⟩ : ∃ init, ofLines before = .ok init :=
    hout.exists_ofLines fun l hl => by simp [hlines, hl]
  have hmem : line ∈ lines r.stdout := by simp [hlines]
  obtain ⟨last, hlast⟩ := exists_diagnosticOf hhead (hout.isShort hmem hhead) after
  obtain ⟨hwhole, text, htext, hprolonged⟩ :=
    ofLines_append_of_head hhead hafter hinit hlast hsecond
  rw [← hlines] at hwhole hprolonged
  rw [continuation_eq_opening] at hprolonged
  refine ⟨init, last, text, hwhole, htext, ?_⟩
  rw [parse_combinedOutput_eq]
  exact hprolonged

/-- A text does not become longer only if there are no lines to join to it. -/
lemma eq_nil_of_append_joined {text : String} {more : List (List Char)}
    (h : text ++ String.ofList (more.flatMap (' ' :: ·)) = text) : more = [] := by
  have hchars := congrArg String.toList h
  rw [String.toList_append, String.toList_ofList, List.append_right_eq_self,
    List.flatMap_eq_nil_iff] at hchars
  exact List.eq_nil_iff_forall_not_mem.2 fun l hl => List.cons_ne_nil _ _ (hchars l hl)

/-- **What the streams do to each other.**  The diagnostics of both streams together are those of
the first and those of the second, unless the first leaves a message open and the second begins with
a line that continues it.  In that case such lines of the second stream are joined to the message of
the last diagnostic of the first, and nothing else is changed. -/
theorem parse_combinedOutput (r : CommandResult) (hout : ShortNumbers r.stdout)
    (herr : ShortNumbers r.stderr) :
    ∃ first second, parse r.stdout = .ok first ∧ parse r.stderr = .ok second ∧
      (parse r.combinedOutput = .ok (first ++ second) ↔
        (LeavesOpen (lines r.stdout) → opening (lines r.stderr) = [])) ∧
      (LeavesOpen (lines r.stdout) →
        ∃ init last text, first = init ++ [last] ∧ last.message = .text text ∧
          parse r.combinedOutput =
            .ok (init ++ prolong last text (opening (lines r.stderr)) :: second)) := by
  obtain ⟨first, hfirst⟩ : ∃ first, parse r.stdout = .ok first :=
    hout.exists_ofLines fun _ hl => hl
  obtain ⟨second, hsecond⟩ : ∃ second, parse r.stderr = .ok second :=
    herr.exists_ofLines fun _ hl => hl
  have hcontinued : LeavesOpen (lines r.stdout) → _ := fun hopen =>
    parse_combinedOutput_of_leavesOpen r hout hopen hsecond
  refine ⟨first, second, hfirst, hsecond, ⟨fun happend hopen => ?unchanged, fun hopening => ?apart⟩,
    fun hopen => ?continued⟩
  case unchanged =>
    obtain ⟨init, last, text, hsplit, htext, hprolonged⟩ := hcontinued hopen
    obtain rfl := Except.ok.inj (hfirst.symm.trans hsplit)
    have hlists := Except.ok.inj (hprolonged.symm.trans happend)
    rw [List.append_assoc, List.singleton_append, List.append_cancel_left_eq] at hlists
    have hmessage := congrArg Diagnostic.message (List.cons.inj hlists).1
    rw [htext] at hmessage
    exact eq_nil_of_append_joined (Value.text.inj hmessage)
  case apart =>
    rw [parse_combinedOutput_of_opening r hopening, hfirst, hsecond]
    rfl
  case continued =>
    obtain ⟨init, last, text, hsplit, htext, hprolonged⟩ := hcontinued hopen
    exact ⟨init, last, text, Except.ok.inj (hfirst.symm.trans hsplit), htext, hprolonged⟩

/-- One error from the compiler, and a warning from the tool that ran it. -/
def warned : CommandResult where
  exitCode := 2
  stdout := "a.ts(1,2): error TS1005: ';' expected."
  stderr := "npm warn"

lemma messages_warned :
    (parse warned.stdout).map (·.map (·.message)) = .ok [.text "';' expected."] :=
  rfl

/-- The warning is taken for a part of the message. -/
theorem parse_combinedOutput_warned :
    ∃ last, parse warned.stdout = .ok [last] ∧ last.message = .text "';' expected." ∧
      parse warned.combinedOutput =
        .ok [{ last with message := .text "';' expected. npm warn" }] := by
  have hopen : LeavesOpen (lines warned.stdout) :=
    ⟨[], "a.ts(1,2): error TS1005: ';' expected.".toList, [], by decide, by decide, by simp⟩
  obtain ⟨first, second, hfirst, hsecond, -, hcontinued⟩ :=
    parse_combinedOutput warned (.of_length_le (by decide)) (.of_length_le (by decide))
  obtain ⟨init, last, text, rfl, htext, hboth⟩ := hcontinued hopen
  obtain rfl : [] = second := Except.ok.inj hsecond
  have hmessages := messages_warned
  rw [hfirst] at hmessages
  have hlist : (init ++ [last]).map (·.message) = [.text "';' expected."] := Except.ok.inj hmessages
  obtain rfl : init = [] := by
    have hlen := congrArg List.length hlist
    simpa using hlen
  have hlast : last.message = .text "';' expected." := (List.cons.inj hlist).1
  obtain rfl : text = "';' expected." := Value.text.inj (htext.symm.trans hlast)
  have hjoined : "';' expected." ++ String.ofList
      ((opening (lines warned.stderr)).flatMap (' ' :: ·)) = "';' expected. npm warn" := by
    decide
  rw [prolong, hjoined] at hboth
  exact ⟨last, hfirst, hlast, hboth⟩

/-- The streams are not read apart. -/
theorem not_forall_streams_apart :
    ¬ ∀ r : CommandResult, ShortNumbers r.stdout → ShortNumbers r.stderr →
      ∃ first second, parse r.stdout = .ok first ∧ parse r.stderr = .ok second ∧
        parse r.combinedOutput = .ok (first ++ second) := by
  intro h
  obtain ⟨first, second, hfirst, hsecond, hboth⟩ :=
    h warned (.of_length_le (by decide)) (.of_length_le (by decide))
  have hmessages := messages_warned
  have hall : (parse warned.combinedOutput).map (·.map (·.message)) =
      .ok [.text "';' expected. npm warn"] := rfl
  obtain rfl : [] = second := Except.ok.inj hsecond
  rw [hfirst] at hmessages
  rw [hboth, List.append_nil, hmessages] at hall
  have htexts := Value.text.inj (List.cons.inj (Except.ok.inj hall)).1
  exact absurd htexts (by decide)

end ProjectCheck.CompilerOutput
