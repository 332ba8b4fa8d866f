import ProjectCheck.Proofs.CompilerOutput.Location
import ProjectCheck.Proofs.Text.Lines

/-!
# Diagnostics out of lines

A head line and the lines up to the next location make one diagnostic, so lines can be cut in front of
any line that has a location: the diagnostics of the whole are those of the two parts
(`ofLines_append`).  More than that, they can be cut wherever the second part begins with no line that
would continue a message.

Blank lines are invisible (`ofLines_filter`), and lines are refused only for a number with too many
digits (`exists_ofLines`).
-/

namespace ProjectCheck.CompilerOutput

open ProjectCheck.Number ProjectCheck.Text

/-! ## Lines of an output -/

lemma lines_eq (output : String) : lines output = (pieces '\n' output.toList).map trim :=
  map_trim_pieces_joinLineEnds output.toList

/-- A line of an output is part of it. -/
lemma infix_of_mem_lines {output : String} {line : List Char} (h : line ∈ lines output) :
    line <:+: output.toList := by
  rw [lines_eq, List.mem_map] at h
  obtain ⟨piece, hpiece, rfl⟩ := h
  exact (infix_trim piece).trans (infix_of_mem_pieces hpiece)

/-! ## Continuation lines -/

variable {xs ys : List (List Char)}

lemma continuation_cons_of_location {line : List Char} (h : hasLocation line = true)
    (xs : List (List Char)) : continuation (line :: xs) = [] := by
  rw [continuation, List.takeWhile_cons_of_neg (by simp [h]), List.filter_nil]

lemma continuation_append_of_free (h : ∀ line ∈ xs, hasLocation line = false)
    (ys : List (List Char)) : continuation (xs ++ ys) = continuation xs ++ continuation ys := by
  have hall : ∀ line ∈ xs, (!hasLocation line) = true := fun line hline => by simp [h line hline]
  rw [continuation, List.takeWhile_append_of_pos hall, List.filter_append, continuation,
    continuation, List.takeWhile_eq_self_iff.2 hall]

lemma continuation_cons_of_free {line : List Char} (h : hasLocation line = false)
    (xs : List (List Char)) : continuation (line :: xs) = continuation [line] ++ continuation xs := by
  have hline : ∀ l ∈ [line], hasLocation l = false := by simpa using h
  exact continuation_append_of_free hline xs

lemma continuation_append_of_location {line : List Char} (hmem : line ∈ xs)
    (h : hasLocation line = true) (ys : List (List Char)) :
    continuation (xs ++ ys) = continuation xs := by
  rw [continuation, List.takeWhile_append, if_neg, continuation]
  intro hlen
  have hall := List.takeWhile_eq_self_iff.1 ((List.takeWhile_prefix _).eq_of_length hlen) line hmem
  simp [h] at hall

/-- Lines that would continue no message change no message. -/
lemma continuation_append_of_nil (h : continuation ys = []) :
    continuation (xs ++ ys) = continuation xs := by
  by_cases hfree : ∀ line ∈ xs, hasLocation line = false
  · rw [continuation_append_of_free hfree, h, List.append_nil]
  · push Not at hfree
    obtain ⟨line, hmem, hline⟩ := hfree
    exact continuation_append_of_location hmem (by simpa using hline) ys

/-! ## Diagnostics -/

lemma diagnosticOf_congr (line : List Char) (head : Head) (h : continuation xs = continuation ys) :
    diagnosticOf line head xs = diagnosticOf line head ys := by
  rw [diagnosticOf, diagnosticOf, h]

/-- A diagnostic is made only if both numbers can be read. -/
lemma exists_readDigits_of_diagnosticOf {line : List Char} {head : Head} {diagnostic : Diagnostic}
    (h : diagnosticOf line head xs = .ok diagnostic) :
    ∃ lineNumber columnNumber, readDigits head.line = .ok lineNumber ∧
      readDigits head.column = .ok columnNumber := by
  rw [diagnosticOf] at h
  cases hline : readDigits head.line with
  | error fault => simp [hline, bind, Except.bind] at h
  | ok lineNumber =>
    cases hcolumn : readDigits head.column with
    | error fault => simp [hline, hcolumn, bind, Except.bind] at h
    | ok columnNumber => exact ⟨lineNumber, columnNumber, rfl, rfl⟩

lemma ofLines_cons_of_none {line : List Char} (h : head? line = none) (xs : List (List Char)) :
    ofLines (line :: xs) = ofLines xs := by
  rw [ofLines, h]

lemma ofLines_cons_of_some {line : List Char} {head : Head} (h : head? line = some head)
    (xs : List (List Char)) : ofLines (line :: xs) =
      (do
        let diagnostic ← diagnosticOf line head xs
        let others ← ofLines xs
        return diagnostic :: others) := by
  rw [ofLines, h]

/-- **Lines fall into blocks.**  In front of lines that would continue no message, as those that
begin with a location, lines can be cut. -/
theorem ofLines_append (xs : List (List Char)) (h : continuation ys = []) :
    ofLines (xs ++ ys) =
      (do
        let first ← ofLines xs
        let second ← ofLines ys
        return first ++ second) := by
  induction xs with
  | nil =>
    rw [List.nil_append]
    cases ofLines ys <;> rfl
  | cons line xs ih =>
    cases hhead : head? line with
    | none => rw [List.cons_append, ofLines_cons_of_none hhead, ofLines_cons_of_none hhead, ih]
    | some head =>
      have hmessage : continuation (xs ++ ys) = continuation xs := continuation_append_of_nil h
      rw [List.cons_append, ofLines_cons_of_some hhead, ofLines_cons_of_some hhead,
        diagnosticOf_congr line head hmessage, ih]
      simp

lemma ofLines_append_of_free (h : ∀ line ∈ xs, hasLocation line = false) (ys : List (List Char)) :
    ofLines (xs ++ ys) = ofLines ys := by
  induction xs with
  | nil => rfl
  | cons line xs ih =>
    rw [List.cons_append, ofLines_cons_of_none (head?_eq_none (h line List.mem_cons_self)),
      ih fun l hl => h l (List.mem_cons_of_mem line hl)]

/-- Lines without a location make no diagnostic. -/
lemma ofLines_of_free (h : ∀ line ∈ xs, hasLocation line = false) : ofLines xs = .ok [] := by
  rw [← List.append_nil xs, ofLines_append_of_free h]
  rfl

/-! ## Blank lines -/

lemma continuation_filter (xs : List (List Char)) :
    continuation (xs.filter (!·.isEmpty)) = continuation xs := by
  induction xs with
  | nil => rfl
  | cons line xs ih =>
    cases line with
    | nil =>
      rw [continuation_cons_of_free (by rfl) xs]
      exact ih
    | cons c line =>
      rw [List.filter_cons_of_pos (by rfl)]
      cases hline : hasLocation (c :: line) with
      | true => rw [continuation_cons_of_location hline, continuation_cons_of_location hline]
      | false =>
        rw [continuation_cons_of_free hline, continuation_cons_of_free hline xs, ih]

/-- Blank lines can be left out. -/
lemma ofLines_filter (xs : List (List Char)) : ofLines (xs.filter (!·.isEmpty)) = ofLines xs := by
  induction xs with
  | nil => rfl
  | cons line xs ih =>
    cases line with
    | nil => exact ih.trans (ofLines_cons_of_none rfl xs).symm
    | cons c line =>
      rw [List.filter_cons_of_pos (by rfl)]
      cases hhead : head? (c :: line) with
      | none => rw [ofLines_cons_of_none hhead, ofLines_cons_of_none hhead, ih]
      | some head =>
        rw [ofLines_cons_of_some hhead, ofLines_cons_of_some hhead, ih,
          diagnosticOf_congr _ _ (continuation_filter xs)]

/-! ## Refused lines -/

/-- Both numbers of a head line have no more digits than allowed. -/
def Head.IsShort (head : Head) : Prop :=
  head.line.length ≤ integerDigitLimit ∧ head.column.length ≤ integerDigitLimit

lemma exists_diagnosticOf {line : List Char} {head : Head} (hhead : head? line = some head)
    (hshort : head.IsShort) (following : List (List Char)) :
    ∃ diagnostic, diagnosticOf line head following = .ok diagnostic := by
  obtain ⟨hline, hcolumn, -⟩ := location_of_head? hhead
  obtain ⟨lineNumber, hlineNumber⟩ := exists_readDigits hline hshort.1
  obtain ⟨columnNumber, hcolumnNumber⟩ := exists_readDigits hcolumn hshort.2
  rw [diagnosticOf, hlineNumber, hcolumnNumber]
  exact ⟨_, rfl⟩

/-- Lines are refused only for a number with too many digits. -/
theorem exists_ofLines (h : ∀ line ∈ xs, ∀ head ∈ head? line, head.IsShort) :
    ∃ diagnostics, ofLines xs = .ok diagnostics := by
  induction xs with
  | nil => exact ⟨[], rfl⟩
  | cons line xs ih =>
    obtain ⟨others, hothers⟩ := ih fun l hl => h l (List.mem_cons_of_mem line hl)
    cases hhead : head? line with
    | none => exact ⟨others, by rw [ofLines_cons_of_none hhead, hothers]⟩
    | some head =>
      obtain ⟨diagnostic, hdiagnostic⟩ :=
        exists_diagnosticOf hhead (h line List.mem_cons_self head hhead) xs
      exact ⟨diagnostic :: others, by rw [ofLines_cons_of_some hhead, hdiagnostic, hothers]; rfl⟩

end ProjectCheck.CompilerOutput
