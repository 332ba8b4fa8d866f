import ProjectCheck.Proofs.CompilerOutput.Blocks

/-!
# Printed diagnostics are read back

A report is a diagnostic as the compiler prints it: a head line and the lines that continue its
message.  Reports are printed on a page, where they may be indented and followed by blanks, with
blank lines anywhere, with lines in front that hold no location, and with a closing summary.  From
any such page exactly the reports are read (`parse_page`).

Each report is a block of lines for itself (`ofLines_report`), since the next one begins with a
location.
-/

namespace ProjectCheck.CompilerOutput

open ProjectCheck.Number ProjectCheck.Text

/-! ## Reports -/

/-- A diagnostic as the compiler prints it.  The file holds no location, but it may hold
parentheses, commas, colons and blanks. -/
structure Report where
  file : List Char
  line : Nat
  column : Nat
  /-- The digits of the code. -/
  code : List Char
  message : List Char
  /-- The lines that continue the message. -/
  more : List (List Char)
  file_ne_nil : file ≠ []
  file_free : ¬ HoldsLocation file
  line_short : (decimalDigits line).length ≤ integerDigitLimit
  column_short : (decimalDigits column).length ≤ integerDigitLimit
  code_isNumeral : IsNumeral code
  message_ne_nil : message ≠ []
  message_trimmed : trim message = message
  more_continues : ∀ l ∈ more, l ≠ [] ∧ ¬ HoldsLocation l.tail ∧ ¬ IsSummary l

namespace Report

/-- The head line of a report, as in `src/a.ts(12,5): error TS2307: Cannot find it.` -/
def headLine (r : Report) : List Char :=
  r.file ++ (location (decimalDigits r.line) (decimalDigits r.column) ++ headText r.code r.message)

/-- The lines of a report. -/
def lines (r : Report) : List (List Char) :=
  r.headLine :: r.more

/-- The diagnostic that a report stands for. -/
def diagnostic (r : Report) : Diagnostic :=
  let code := String.ofList ('T' :: 'S' :: r.code)
  { subject := .build
    category := .typeScript
    message := .text (String.ofList (joinWith [' '] (r.message :: r.more)))
    severity := severityOfCode code
    autoFixable := .bool (isFixableCode code)
    details :=
      .record
        [("error_code", .text code), ("compiler_output", .text (String.ofList r.headLine)),
         ("analysis_type", .text "tsc_compiler")]
    file := .text (String.ofList r.file)
    line := .ofNat r.line
    column := .ofNat r.column }

/-! ## One report -/

lemma head?_headLine (r : Report) : head? r.headLine =
    some
      { file := r.file
        line := decimalDigits r.line
        column := decimalDigits r.column
        code := 'T' :: 'S' :: r.code
        message := r.message } :=
  head?_append r.file_ne_nil r.file_free (isNumeral_decimalDigits r.line)
    (isNumeral_decimalDigits r.column) r.code_isNumeral r.message_ne_nil r.message_trimmed

lemma hasLocation_headLine (r : Report) : hasLocation r.headLine = true :=
  hasLocation_of_head? r.head?_headLine

lemma hasLocation_more (r : Report) : ∀ l ∈ r.more, hasLocation l = false := by
  intro l hl
  obtain ⟨-, hfree, -⟩ := r.more_continues l hl
  exact hasLocation_eq_false_iff.2 hfree

lemma continuation_more (r : Report) : continuation r.more = r.more := by
  rw [continuation, List.takeWhile_eq_self_iff.2, List.filter_eq_self]
  · intro l hl
    obtain ⟨hne, -, hsummary⟩ := r.more_continues l hl
    rw [← isSummary_iff] at hsummary
    simp [hne, hsummary]
  · intro l hl
    simp [r.hasLocation_more l hl]

/-- **One report.**  Its lines make its diagnostic and nothing else. -/
theorem ofLines_report (r : Report) : ofLines r.lines = .ok [r.diagnostic] := by
  rw [lines, ofLines_cons_of_some r.head?_headLine, ofLines_of_free r.hasLocation_more,
    diagnosticOf, readDigits_decimalDigits r.line_short, readDigits_decimalDigits r.column_short,
    r.continuation_more]
  dsimp only
  rw [r.message_trimmed]
  rfl

end Report

/-! ## Pages of reports -/

lemma continuation_reports (reports : List Report) {ys : List (List Char)}
    (h : continuation ys = []) : continuation (reports.flatMap Report.lines ++ ys) = [] := by
  cases reports with
  | nil => exact h
  | cons r reports => exact continuation_cons_of_location r.hasLocation_headLine _

/-- **One report after another.**  Lines behind the reports that continue no message do not matter. -/
lemma ofLines_reports (reports : List Report) {ys : List (List Char)} (hys : continuation ys = [])
    (hnone : ofLines ys = .ok []) :
    ofLines (reports.flatMap Report.lines ++ ys) = .ok (reports.map Report.diagnostic) := by
  induction reports with
  | nil => exact hnone
  | cons r reports ih =>
    rw [List.flatMap_cons, List.append_assoc, ofLines_append _ (continuation_reports reports hys),
      r.ofLines_report, ih]
    rfl

/-- The lines of a page are read without the blank ones. -/
lemma parse_text (page : Page) : parse (String.ofList page.text) = ofLines page.contents := by
  rw [parse, lines_eq, String.toList_ofList, page.map_trim_pieces_text, Page.contents, ofLines_filter]

/-- **Printed diagnostics are read back.**  From a page with lines that hold no location, with
reports behind them, and with a summary at the end or without one, exactly the reports are read, in
their order, with all they say. -/
theorem parse_page (page : Page) (preamble : List (List Char)) (reports : List Report)
    (summary : Option (List Char)) (hpreamble : ∀ l ∈ preamble, ¬ HoldsLocation l)
    (hsummary : ∀ l ∈ summary, IsSummary l ∧ ¬ HoldsLocation l)
    (hpage : page.contents = preamble ++ reports.flatMap Report.lines ++ summary.toList) :
    parse (String.ofList page.text) = .ok (reports.map Report.diagnostic) := by
  have hclosing : continuation summary.toList = [] ∧ ofLines summary.toList = .ok [] := by
    cases summary with
    | none => exact ⟨rfl, rfl⟩
    | some l =>
      obtain ⟨hl, hfree⟩ := hsummary l rfl
      rw [← isSummary_iff] at hl
      have hline := hasLocation_eq_false hfree
      exact ⟨by simp [continuation, hline, hl], ofLines_of_free (by simpa using hline)⟩
  rw [parse_text, hpage, List.append_assoc,
    ofLines_append_of_free fun l hl => hasLocation_eq_false (hpreamble l hl)]
  exact ofLines_reports reports hclosing.1 hclosing.2

/-- Two reports: the file of the first has parentheses and digits in its name, and its message goes
on over two lines. -/
def twoReports : List Report :=
  [{ file := "a (1,2).ts".toList, line := 3, column := 17, code := "2322".toList,
     message := "No match.".toList, more := ["(1,2): it is".toList, "Found two".toList],
     file_ne_nil := by decide, file_free := by decide, line_short := by decide,
     column_short := by decide, code_isNumeral := by decide, message_ne_nil := by decide,
     message_trimmed := by decide, more_continues := by decide },
   { file := "b".toList, line := 0, column := 1, code := "1005".toList,
     message := "';' expected.".toList, more := [],
     file_ne_nil := by decide, file_free := by decide, line_short := by decide,
     column_short := by decide, code_isNumeral := by decide, message_ne_nil := by decide,
     message_trimmed := by decide, more_continues := by decide }]

/-- A line with blanks around it. -/
def indented (content : LineText) : PrintedLine :=
  ⟨⟨[' ', ' '], by decide⟩, content, ⟨['\t'], by decide⟩⟩

/-- The two reports on a page with noise, blank lines and line ends of both kinds. -/
def noisyPage : Page where
  ended :=
    [(indented ⟨"$ tsc (1, 2):".toList, by decide⟩, .returnFeed),
     (indented ⟨"a (1,2).ts(3,17): error TS2322: No match.".toList, by decide⟩, .feed),
     (indented ⟨[], by decide⟩, .returnFeed),
     (indented ⟨"(1,2): it is".toList, by decide⟩, .returnFeed),
     (indented ⟨"Found two".toList, by decide⟩, .feed),
     (indented ⟨"b(0,1): error TS1005: ';' expected.".toList, by decide⟩, .feed)]
  last := indented ⟨"Found 2 errors.".toList, by decide⟩

/-- The noise is left out, and each report is read whole. -/
theorem parse_noisyPage :
    parse (String.ofList noisyPage.text) = .ok (twoReports.map Report.diagnostic) := by
  refine parse_page noisyPage ["$ tsc (1, 2):".toList] twoReports
    (some "Found 2 errors.".toList) ?preamble ?summary ?page
  case preamble => decide
  case summary => decide
  case page => decide

end ProjectCheck.CompilerOutput
