import Mathlib.Data.List.Find
import ProjectCheck.Content.Scan
import ProjectCheck.Proofs.Text.Lines
import ProjectCheck.Proofs.Text.Reading

/-!
# Content line by line

A scan looks at every line of a content alone.  What it finds is what its rules say about each
numbered line (`scanLines_eq_filterMap`), so nothing that stands in one line has a say in another,
and the findings of two contents, one below the other, are those of both, the second ones moved down
(`scan_line_by_line`).

The lines of a content whose line ends are written with a carriage return end in that return.  No
pattern, exclusion or comment test notices it but one, the pattern of blanks at the end of a line,
which holds of no line with a return (`findings_with_returns`).
-/

namespace ProjectCheck.Content

open ProjectCheck.Text

/-! ## Lines and their numbers -/

/-- The lines of a content: what stands between its line feeds. -/
def linesOf (content : String) : List (List Char) :=
  pieces '\n' content.toList

lemma linesOf_append (a b : String) : linesOf (a ++ "\n" ++ b) = linesOf a ++ linesOf b := by
  have htext : (a ++ "\n" ++ b).toList = a.toList ++ '\n' :: b.toList := by simp
  rw [linesOf, htext, pieces_append_cons]
  rfl

/-- The number of the line that a finding is on. -/
def lineNumber? (d : Diagnostic) : Option Int :=
  d.line.int?

/-- A finding so many lines further down. -/
def movedDown (count : Nat) (d : Diagnostic) : Diagnostic :=
  { d with line := (lineNumber? d).elim d.line fun n => .int (n + count) }

lemma finding_add (path : String) (number count : Nat) (line : List Char) (rule : Rule) :
    finding path (number + count) line rule = movedDown count (finding path number line rule) :=
  rfl

/-! ## One rule for each line -/

/-- The first rule that applies to a line. -/
def IsFirst (rules : List Rule) (line : List Char) (rule : Rule) : Prop :=
  ∃ before after, rules = before ++ rule :: after ∧ rule.applies line = true ∧
    ∀ other ∈ before, other.applies line = false

variable {rules : List Rule} {path : String}

lemma find?_eq_some_iff_isFirst {line : List Char} {rule : Rule} :
    rules.find? (·.applies line) = some rule ↔ IsFirst rules line rule := by
  rw [List.find?_eq_some_iff_append]
  constructor
  · rintro ⟨happlies, before, after, hrules, hbefore⟩
    exact ⟨before, after, hrules, happlies, fun other hother => by simpa using hbefore other hother⟩
  · rintro ⟨before, after, hrules, happlies, hbefore⟩
    exact ⟨happlies, before, after, hrules, fun other hother => by simpa using hbefore other hother⟩

lemma ruleFor?_eq_some_iff {line : List Char} {rule : Rule} :
    ruleFor? rules line = some rule ↔ isBenign line = false ∧ IsFirst rules line rule := by
  rw [ruleFor?, ← find?_eq_some_iff_isFirst]
  cases isBenign line <;> simp

/-- Among rules of which one applies there is a first one. -/
lemma exists_isFirst_iff {line : List Char} :
    (∃ rule, IsFirst rules line rule) ↔ ∃ rule ∈ rules, rule.applies line = true := by
  simp only [← find?_eq_some_iff_isFirst, ← Option.isSome_iff_exists, List.find?_isSome]

/-! ## Findings -/

/-- What rules say about a numbered line. -/
def findingOn? (rules : List Rule) (path : String) (numbered : List Char × Nat) :
    Option Diagnostic :=
  (ruleFor? rules numbered.1).map (finding path numbered.2 numbered.1)

lemma findingOn?_eq_some_iff {numbered : List Char × Nat} {d : Diagnostic} :
    findingOn? rules path numbered = some d ↔
      ∃ rule, ruleFor? rules numbered.1 = some rule ∧
        finding path numbered.2 numbered.1 rule = d :=
  Option.map_eq_some_iff

/-- A scan comes to what the rules say about each numbered line. -/
lemma scanLines_eq_filterMap (number : Nat) (lines : List (List Char)) :
    scanLines rules path number lines =
      (lines.zipIdx number).filterMap (findingOn? rules path) := by
  induction lines generalizing number with
  | nil => rfl
  | cons line rest ih =>
    rw [scanLines, ih, List.zipIdx_cons, List.filterMap_cons]
    simp only [findingOn?]
    cases ruleFor? rules line <;> rfl

lemma scanLines_append (number : Nat) (lines others : List (List Char)) :
    scanLines rules path number (lines ++ others) =
      scanLines rules path number lines ++
        scanLines rules path (number + lines.length) others := by
  rw [scanLines_eq_filterMap, List.zipIdx_append, List.filterMap_append, ← scanLines_eq_filterMap,
    ← scanLines_eq_filterMap]

lemma scanLines_add (number count : Nat) (lines : List (List Char)) :
    scanLines rules path (number + count) lines =
      (scanLines rules path number lines).map (movedDown count) := by
  induction lines generalizing number with
  | nil => rfl
  | cons line rest ih =>
    rw [scanLines, scanLines, List.map_append, ← ih, Nat.add_right_comm number count 1]
    cases ruleFor? rules line with
    | none => rfl
    | some rule =>
      rw [Option.map_some, Option.map_some, finding_add]
      rfl

lemma mem_scanLines_iff {number : Nat} {lines : List (List Char)} {d : Diagnostic} :
    d ∈ scanLines rules path number lines ↔
      ∃ i line rule, lines[i]? = some line ∧ ruleFor? rules line = some rule ∧
        d = finding path (number + i) line rule := by
  rw [scanLines_eq_filterMap, List.mem_filterMap]
  constructor
  · rintro ⟨⟨line, n⟩, hline, hfound⟩
    obtain ⟨rule, hrule, rfl⟩ := findingOn?_eq_some_iff.1 hfound
    obtain ⟨hle, hi⟩ := List.mem_zipIdx_iff_le_and_getElem?_sub.1 hline
    exact ⟨n - number, line, rule, hi, hrule, by rw [Nat.add_sub_cancel' hle]⟩
  · rintro ⟨i, line, rule, hi, hrule, rfl⟩
    refine ⟨(line, number + i), ?_, findingOn?_eq_some_iff.2 ⟨rule, hrule, rfl⟩⟩
    exact List.mem_zipIdx_iff_le_and_getElem?_sub.2 ⟨by simp, by simpa using hi⟩

/-- A finding is on a line further down than another. -/
def IsBelow (d e : Diagnostic) : Prop :=
  ∃ m n : Nat, d.line = .ofNat m ∧ e.line = .ofNat n ∧ m < n

lemma pairwise_scanLines (number : Nat) (lines : List (List Char)) :
    (scanLines rules path number lines).Pairwise IsBelow := by
  induction lines generalizing number with
  | nil => exact .nil
  | cons line rest ih =>
    rw [scanLines, List.pairwise_append]
    refine ⟨?_, ih (number + 1), ?_⟩
    · cases ruleFor? rules line <;> simp
    · intro d hd e he
      obtain ⟨rule, -, rfl⟩ := Option.map_eq_some_iff.1 (Option.mem_toList.1 hd)
      obtain ⟨i, line', rule', -, -, rfl⟩ := mem_scanLines_iff.1 he
      exact ⟨number, number + 1 + i, rfl, rfl, by omega⟩

/-! ## Scans of contents -/

/-- A way to scan contents goes by rules, one line at a time. -/
structure GoesLineByLine (rules : List Rule) (scanOf : String → String → List Diagnostic) :
    Prop where
  /-- A content below another has its own findings, on lines further down. -/
  below : ∀ path a b, scanOf path (a ++ "\n" ++ b) =
    scanOf path a ++ (scanOf path b).map (movedDown (linesOf a).length)
  ascending : ∀ path content, (scanOf path content).Pairwise IsBelow
  /-- What is found in a line is what the first rule that applies to it says. -/
  mem_iff : ∀ path content d, d ∈ scanOf path content ↔
    ∃ i line rule, (linesOf content)[i]? = some line ∧ isBenign line = false ∧
      IsFirst rules line rule ∧ d = finding path (i + 1) line rule
  /-- Something is found in a line exactly if it is not benign and a rule applies to it. -/
  reports_iff : ∀ path content i, (∃ d ∈ scanOf path content, d.line = .ofNat (i + 1)) ↔
    ∃ line, (linesOf content)[i]? = some line ∧ isBenign line = false ∧
      ∃ rule ∈ rules, rule.applies line = true

lemma mem_scan_iff {content : String} {d : Diagnostic} : d ∈ scan rules path content ↔
    ∃ i line rule, (linesOf content)[i]? = some line ∧ isBenign line = false ∧
      IsFirst rules line rule ∧ d = finding path (i + 1) line rule := by
  simp only [scan, mem_scanLines_iff, ruleFor?_eq_some_iff, and_assoc, Nat.add_comm 1]
  rfl

lemma ofNat_injective {m n : Nat} (h : Value.ofNat m = Value.ofNat n) : m = n :=
  Int.ofNat_inj.1 (Value.int.inj h)

/-- **A scan goes line by line, whatever its rules.** -/
theorem goesLineByLine_scan (rules : List Rule) : GoesLineByLine rules (scan rules) where
  below path a b := by
    have hlines : pieces '\n' (a ++ "\n" ++ b).toList = linesOf a ++ linesOf b := linesOf_append a b
    rw [scan, hlines, scanLines_append, scanLines_add]
    rfl
  ascending path content := pairwise_scanLines 1 _
  mem_iff path content d := mem_scan_iff
  reports_iff path content i := by
    constructor
    · rintro ⟨d, hd, hline⟩
      obtain ⟨j, line, rule, hj, hbenign, hfirst, rfl⟩ := mem_scan_iff.1 hd
      obtain rfl : j = i := Nat.succ.inj (ofNat_injective hline)
      exact ⟨line, hj, hbenign, exists_isFirst_iff.1 ⟨rule, hfirst⟩⟩
    · rintro ⟨line, hi, hbenign, hsome⟩
      obtain ⟨rule, hfirst⟩ := exists_isFirst_iff.2 hsome
      exact ⟨_, mem_scan_iff.2 ⟨i, line, rule, hi, hbenign, hfirst, rfl⟩, rfl⟩

/-- **Contents are scanned line by line**, by any rules, and so by those about types and those about
style. -/
theorem scan_line_by_line : (∀ rules, GoesLineByLine rules (scan rules)) ∧
    GoesLineByLine typeRiskRules scanTypeRisks ∧ GoesLineByLine lintRiskRules scanLintRisks :=
  ⟨goesLineByLine_scan, goesLineByLine_scan typeRiskRules, goesLineByLine_scan lintRiskRules⟩

/-! ## Line ends with a carriage return -/

/-- A content with a carriage return in front of each line feed. -/
def withReturns (content : String) : String :=
  String.ofList (content.toList.flatMap fun c => if c = '\n' then ['\r', '\n'] else [c])

/-- All lines but the last end in the return. -/
lemma exists_linesOf_withReturns (content : String) :
    ∃ ended last, linesOf content = ended ++ [last] ∧
      linesOf (withReturns content) = ended.map (· ++ ['\r']) ++ [last] := by
  rw [linesOf, linesOf, withReturns, String.toList_ofList]
  induction content.toList with
  | nil => exact ⟨[], [], rfl, rfl⟩
  | cons c s ih =>
    obtain ⟨ended, last, hlines, hreturns⟩ := ih
    rw [List.flatMap_cons]
    by_cases hc : c = '\n'
    · rw [if_pos hc, hc, pieces_cons_self, hlines, List.cons_append, List.singleton_append,
        pieces_cons_of_ne (by decide), pieces_cons_self, hreturns]
      exact ⟨[] :: ended, last, rfl, rfl⟩
    · rw [if_neg hc, pieces_cons_of_ne hc, hlines, List.singleton_append, pieces_cons_of_ne hc,
        hreturns]
      cases ended with
      | nil => exact ⟨[], c :: last, rfl, rfl⟩
      | cons first ended => exact ⟨(c :: first) :: ended, last, rfl, rfl⟩

lemma feed_notMem_of_mem_linesOf {content : String} {line : List Char}
    (h : line ∈ linesOf content) : '\n' ∉ line :=
  not_mem_of_mem_pieces h

/-- A test of lines does not notice a carriage return at the end. -/
def IgnoresReturn (test : List Char → Bool) : Prop :=
  ∀ line, '\n' ∉ line → test (line ++ ['\r']) = test line

lemma trim_return (line : List Char) : trim (line ++ ['\r']) = trim line :=
  trim_append_blank (allBlank_singleton (by decide)) line

lemma endsWord_return (s : List Char) : endsWord (s ++ ['\r']) = endsWord s := by
  cases s <;> rfl

/-! ### Patterns that do not notice it -/

lemma ignoresReturn_isBenign : IgnoresReturn isBenign := by
  intro line _
  simp only [isBenign, benignMessages, List.any_cons, List.any_nil]
  rw [occursIn_concat (by decide)]

lemma ignoresReturn_suppressesChecks : IgnoresReturn suppressesChecks := fun line _ =>
  occursIn_concat (by decide) line

/-- Blanks that are dropped at the end of a line may end in the return. -/
lemma getD_dropBlanks?_return {reader : List Char → Option Bool}
    (hnil : (reader []).getD false = false)
    (hreturn : ∀ s, (reader (s ++ ['\r'])).getD false = (reader s).getD false) (s : List Char) :
    ((dropBlanks? (s ++ ['\r'])).bind reader).getD false =
      ((dropBlanks? s).bind reader).getD false := by
  rcases dropBlanks?_concat_cases (c := '\r') (by decide) s with ⟨hempty, hs⟩ | hs
  · rw [hs, Option.bind_some, hnil]
    cases hblanks : dropBlanks? s with
    | none => rfl
    | some rest => rw [hempty rest hblanks, Option.bind_some, hnil]
  · rw [hs]
    cases dropBlanks? s with
    | none => rfl
    | some rest => exact hreturn rest

lemma ignoresReturn_castsToAny : IgnoresReturn castsToAny := by
  intro line _
  refine somewhere_concat (fun before s => congrArg (beginsWord before && ·) ?_) (by decide) line
  rw [afterPrefix?_concat (by decide)]
  cases afterPrefix? ['a', 's'] s with
  | none => rfl
  | some rest =>
    refine getD_dropBlanks?_return rfl (fun behind => ?_) rest
    rw [afterPrefix?_concat (by decide)]
    cases afterPrefix? "any".toList behind with
    | none => rfl
    | some ending => exact endsWord_return ending

lemma ignoresReturn_declaresVar : IgnoresReturn declaresVar := by
  intro line _
  refine somewhere_concat (fun before s => congrArg (beginsWord before && ·) ?_) (by decide) line
  rw [afterPrefix?_concat (by decide)]
  cases afterPrefix? "var".toList s with
  | none => rfl
  | some rest => exact getD_dropBlanks?_return rfl (fun behind => by cases behind <;> rfl) rest

lemma ignoresReturn_comparesLoosely : IgnoresReturn comparesLoosely := by
  intro line _
  refine somewhere_concat (fun before s => ?_) (by decide) line
  rw [afterOneOf?_concat (by decide)]
  cases afterOneOf? ["==", "!="] s with
  | none => rfl
  | some found =>
    obtain ⟨word, rest⟩ := found
    cases rest <;> rfl

lemma logsWhileDebugging_return (s : List Char) :
    logsWhileDebugging (s ++ ['\r']) = logsWhileDebugging s := by
  have hword : ∀ s : List Char,
      (["debug", "development", "TODO"].any fun word => occursIn word.toList (s ++ ['\r'])) =
        ["debug", "development", "TODO"].any fun word => occursIn word.toList s := by
    intro s
    simp only [List.any_cons, List.any_nil]
    rw [occursIn_concat (by decide), occursIn_concat (by decide), occursIn_concat (by decide)]
  rw [logsWhileDebugging, logsWhileDebugging]
  congr 1
  · rw [cutAt?_concat (by decide)]
    cases cutAt? "console.log".toList s with
    | none => rfl
    | some cut => exact hword cut.2
  · refine somewhere_concat (fun _ s => ?_) (by decide) s
    rw [afterOneOf?_concat (by decide)]
    cases afterOneOf? ["debug", "development", "TODO"] s with
    | none => rfl
    | some found => exact occursIn_concat (by decide) found.2

lemma ignoresReturn_isDebugLogging : IgnoresReturn isDebugLogging := by
  intro line hline
  have hreturn : '\n' ∉ line ++ ['\r'] := by simp [hline]
  rw [isDebugLogging, isDebugLogging, pieces_of_not_mem hline, pieces_of_not_mem hreturn]
  simp [logsWhileDebugging_return]

/-- Blanks at the end of a line are not at its end if the line ends in a return. -/
lemma hasTrailingGap_return (line : List Char) : hasTrailingGap (line ++ ['\r']) = false := by
  simp [hasTrailingGap, endsInGap]

/-! ### Rules -/

lemma ignoresReturn_applies {rule : Rule} (hpattern : IgnoresReturn rule.pattern)
    (hexclusions : ∀ test ∈ rule.exclusions, IgnoresReturn test) : IgnoresReturn rule.applies := by
  intro line hline
  have hexcluded : rule.exclusions.any (· (line ++ ['\r'])) = rule.exclusions.any (· line) := by
    rw [Bool.eq_iff_iff, List.any_eq_true, List.any_eq_true]
    exact exists_congr fun test => and_congr_right fun htest => by
      rw [hexclusions test htest line hline]
  rw [Rule.applies, Rule.applies, trim_return, hexcluded, hpattern line hline]

lemma find?_return {line : List Char} (hline : '\n' ∉ line)
    (h : ∀ rule ∈ rules, IgnoresReturn rule.applies) :
    rules.find? (·.applies (line ++ ['\r'])) = rules.find? (·.applies line) :=
  List.find?_congr fun rule hrule => h rule hrule line hline

lemma ignoresReturn_of_mem_typeRiskRules : ∀ rule ∈ typeRiskRules, IgnoresReturn rule.applies := by
  simp only [typeRiskRules, List.forall_mem_cons]
  exact ⟨ignoresReturn_applies ignoresReturn_suppressesChecks (by simp),
    ignoresReturn_applies ignoresReturn_castsToAny (by simp), by simp⟩

/-- Of the rules about style, the last is the one about blanks at the end of a line.  It applies to
no line that ends in a return, and no other rule notices the return. -/
lemma exists_lintRiskRules_eq : ∃ others last, lintRiskRules = others ++ [last] ∧
    last.id = "no-trailing-spaces" ∧ (∀ line, last.applies (line ++ ['\r']) = false) ∧
    ∀ rule ∈ others, rule.id ≠ "no-trailing-spaces" ∧ IgnoresReturn rule.applies := by
  have hexclusions : ∀ test ∈ [isDebugLogging], IgnoresReturn test := by
    simpa using ignoresReturn_isDebugLogging
  refine ⟨lintRiskRules.take 2, _, rfl, rfl, fun line => ?_, ?_⟩
  · rw [Rule.applies]
    simp [hasTrailingGap_return]
  · simp only [lintRiskRules, List.map_cons, List.map_nil, List.take, List.forall_mem_cons]
    exact ⟨⟨by decide, ignoresReturn_applies ignoresReturn_declaresVar hexclusions⟩,
      ⟨by decide, ignoresReturn_applies ignoresReturn_comparesLoosely hexclusions⟩, by simp⟩

lemma ruleFor?_typeRiskRules_return {line : List Char} (hline : '\n' ∉ line) :
    ruleFor? typeRiskRules (line ++ ['\r']) = ruleFor? typeRiskRules line := by
  rw [ruleFor?, ruleFor?, ignoresReturn_isBenign line hline,
    find?_return hline ignoresReturn_of_mem_typeRiskRules]

lemma ruleFor?_lintRiskRules_return {line : List Char} (hline : '\n' ∉ line) :
    ruleFor? lintRiskRules (line ++ ['\r']) =
      (ruleFor? lintRiskRules line).filter (·.id ≠ "no-trailing-spaces") := by
  obtain ⟨others, last, hrules, hid, hlast, hothers⟩ := exists_lintRiskRules_eq
  rw [ruleFor?, ruleFor?, ignoresReturn_isBenign line hline]
  split
  · rfl
  · rw [hrules, List.find?_append, List.find?_append,
      find?_return hline fun rule hrule => (hothers rule hrule).2]
    cases hfound : others.find? (·.applies line) with
    | some rule =>
      have hkept := (hothers rule (List.mem_of_find?_eq_some hfound)).1
      simp [Option.filter, hkept]
    | none =>
      cases hgap : last.applies line <;> simp [Option.filter, hlast, hgap, hid]

/-! ### Findings -/

/-- The rule that a finding about a line comes from. -/
def ruleId? (d : Diagnostic) : Option String :=
  (d.details.member? "rule_id").bind Value.text?

lemma ruleId?_finding (path : String) (number : Nat) (line : List Char) (rule : Rule) :
    ruleId? (finding path number line rule) = some rule.id := by
  simp [ruleId?, finding, Value.member?, Table.get?, Value.text?]

lemma finding_return (path : String) (number : Nat) (line : List Char) :
    finding path number (line ++ ['\r']) = finding path number line := by
  funext rule
  rw [finding, finding, Rule.describe, Rule.describe, trim_return]

/-- What is said of lines that end in returns is what is said of them without, as far as the rules
that speak of a line do. -/
lemma scanLines_map_return (kept : String → Bool)
    (h : ∀ line, '\n' ∉ line →
      ruleFor? rules (line ++ ['\r']) = (ruleFor? rules line).filter (kept ·.id))
    {lines : List (List Char)} (hlines : ∀ line ∈ lines, '\n' ∉ line) (number : Nat) :
    scanLines rules path number (lines.map (· ++ ['\r'])) =
      (scanLines rules path number lines).filter fun d => (ruleId? d).any kept := by
  induction lines generalizing number with
  | nil => rfl
  | cons line rest ih =>
    obtain ⟨hline, hrest⟩ := List.forall_mem_cons.1 hlines
    rw [List.map_cons, scanLines, scanLines, List.filter_append, ih hrest, h line hline,
      finding_return]
    congr 1
    cases ruleFor? rules line with
    | none => rfl
    | some rule =>
      cases hkept : kept rule.id <;> simp [ruleId?_finding, hkept]

/-- With returns, the findings in a content are those that come from rules that speak of lines with
a return, and those in the last line, which has no line end. -/
lemma scan_withReturns (kept : String → Bool)
    (h : ∀ line, '\n' ∉ line →
      ruleFor? rules (line ++ ['\r']) = (ruleFor? rules line).filter (kept ·.id))
    (path content : String) :
    scan rules path (withReturns content) = (scan rules path content).filter fun d =>
      (ruleId? d).any kept || lineNumber? d = some ((linesOf content).length : Int) := by
  obtain ⟨ended, last, hlines, hreturns⟩ := exists_linesOf_withReturns content
  have hended : ∀ line ∈ ended, '\n' ∉ line := fun line hline =>
    feed_notMem_of_mem_linesOf (hlines ▸ List.mem_append_left [last] hline)
  have hlength : (linesOf content).length = ended.length + 1 := by
    rw [hlines, List.length_append, List.length_singleton]
  have habove : ∀ d ∈ scanLines rules path 1 ended,
      lineNumber? d ≠ some ((linesOf content).length : Int) := by
    intro d hd hnumber
    obtain ⟨i, line, rule, hi, -, rfl⟩ := mem_scanLines_iff.1 hd
    have hlt : i < ended.length := (List.getElem?_eq_some_iff.1 hi).1
    have heq : ((1 + i : Nat) : Int) = ((linesOf content).length : Nat) := Option.some.inj hnumber
    omega
  have hbelow : ∀ d ∈ scanLines rules path (1 + ended.length) [last],
      lineNumber? d = some ((linesOf content).length : Int) := by
    intro d hd
    obtain ⟨i, line, rule, hi, -, rfl⟩ := mem_scanLines_iff.1 hd
    have hzero : i = 0 := by simpa using (List.getElem?_eq_some_iff.1 hi).1
    rw [hlength, hzero, Nat.add_zero, Nat.add_comm]
    rfl
  have hplain : scan rules path content =
      scanLines rules path 1 ended ++ scanLines rules path (1 + ended.length) [last] :=
    (congrArg (scanLines rules path 1) hlines).trans (scanLines_append 1 ended [last])
  have hwith : scan rules path (withReturns content) =
      scanLines rules path 1 (ended.map (· ++ ['\r'])) ++
        scanLines rules path (1 + (ended.map (· ++ ['\r'])).length) [last] :=
    (congrArg (scanLines rules path 1) hreturns).trans (scanLines_append 1 _ [last])
  rw [hwith, hplain, List.filter_append, List.length_map, scanLines_map_return kept h hended]
  refine congrArg₂ (· ++ ·) ?_ ?_
  · refine List.filter_congr fun d hd => ?_
    rw [decide_eq_false (habove d hd), Bool.or_false]
  · rw [List.filter_eq_self.2]
    intro d hd
    rw [decide_eq_true (hbelow d hd), Bool.or_true]

lemma exists_ruleId?_of_mem_scan {content : String} {d : Diagnostic}
    (h : d ∈ scan rules path content) : ∃ id, ruleId? d = some id := by
  obtain ⟨i, line, rule, -, -, -, rfl⟩ := mem_scan_iff.1 h
  exact ⟨rule.id, ruleId?_finding _ _ _ _⟩

lemma scanTypeRisks_withReturns (path content : String) :
    scanTypeRisks path (withReturns content) = scanTypeRisks path content := by
  rw [scanTypeRisks, scanTypeRisks, scan_withReturns (fun _ => true), List.filter_eq_self]
  · intro d hd
    obtain ⟨id, hid⟩ := exists_ruleId?_of_mem_scan hd
    rw [hid]
    rfl
  · intro line hline
    rw [ruleFor?_typeRiskRules_return hline]
    cases ruleFor? typeRiskRules line <;> rfl

/-- A finding does not get lost for a return: it comes from another rule than that about blanks at
the end of a line, or from the last line. -/
def IsSeen (content : String) (d : Diagnostic) : Prop :=
  ruleId? d ≠ some "no-trailing-spaces" ∨ lineNumber? d = some ((linesOf content).length : Int)

instance (content : String) (d : Diagnostic) : Decidable (IsSeen content d) :=
  inferInstanceAs (Decidable (_ ∨ _))

lemma scanLintRisks_withReturns (path content : String) :
    scanLintRisks path (withReturns content) =
      (scanLintRisks path content).filter (IsSeen content ·) := by
  rw [scanLintRisks, scanLintRisks,
    scan_withReturns (· ≠ "no-trailing-spaces") fun _ => ruleFor?_lintRiskRules_return]
  refine List.filter_congr fun d hd => ?_
  obtain ⟨id, hid⟩ := exists_ruleId?_of_mem_scan hd
  simp [IsSeen, hid]

/-- Whether line ends are written with a carriage return has no bearing on the risks for types.  Of
the risks for style it hides one kind, blanks at the end of a line: they go unnoticed on all lines
but the last.  All other findings are the same. -/
theorem findings_with_returns (path content : String) :
    scanTypeRisks path (withReturns content) = scanTypeRisks path content ∧
      scanLintRisks path (withReturns content) =
        (scanLintRisks path content).filter (IsSeen content ·) ∧
      (scanLintRisks path (withReturns content) = scanLintRisks path content ↔
        ∀ d ∈ scanLintRisks path content, ruleId? d = some "no-trailing-spaces" →
          lineNumber? d = some ((linesOf content).length : Int)) := by
  refine ⟨scanTypeRisks_withReturns path content, scanLintRisks_withReturns path content, ?_⟩
  rw [scanLintRisks_withReturns, List.filter_eq_self]
  refine forall₂_congr fun d _ => ?_
  rw [decide_eq_true_iff, IsSeen, ← imp_iff_not_or]

/-- Not every content has the same findings with both kinds of line ends: that of one line with two
blanks at its end does not. -/
theorem not_forall_returns_unnoticed :
    ¬ ∀ path content : String, '\r' ∉ content.toList →
      scanTypeRisks path (withReturns content) = scanTypeRisks path content ∧
        scanLintRisks path (withReturns content) = scanLintRisks path content := by
  intro h
  have hsame := congrArg List.length (h "src/a.ts" "z  \n" (by decide)).2
  have hfound : (scanLintRisks "src/a.ts" "z  \n").length = 1 := by decide
  have hmissed : (scanLintRisks "src/a.ts" (withReturns "z  \n")).length = 0 := by decide
  rw [hfound, hmissed] at hsame
  exact absurd hsame (by decide)

end ProjectCheck.Content
