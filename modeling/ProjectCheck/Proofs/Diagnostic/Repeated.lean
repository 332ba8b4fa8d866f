import Mathlib.Data.List.Find
import ProjectCheck.Proofs.CompilerOutput.HeadLines

/-!
# Repeated findings

Findings are told apart by place and message, their key.  Removing repetitions goes through a list
with the findings seen so far (`newAfter`); for plain findings, those that have a key, this comes to
the keys seen so far (`newAfter_eq_filter`).  So the first finding stays and no later one
with its key does (`deduplicate_cons`), and all else follows from that by induction on the list.

A compiler output that begins with a head line can be printed several times in a row: no message
goes on over the seam, so the diagnostics are those of one copy over and over (`parse_printed`), and
removing repetitions leaves those of one copy (`deduplicate_keeps_first`).
-/

namespace ProjectCheck

namespace Diagnostic

/-! ## Keys -/

/-- What a part of a finding is told apart by: it is missing, or an integer or a text. -/
inductive Trait where
  | missing
  | number (n : Int)
  | text (s : String)
deriving DecidableEq

namespace Trait

/-- The value that a part of a finding with this trait has. -/
def value : Trait → Value
  | missing => .null
  | number n => .int n
  | text s => .text s

/-- What a value is told apart by.  A truth value and a whole floating-point number count as the
integers that they equal. -/
def of? (v : Value) : Option Trait :=
  match v.canonical with
  | .null => some missing
  | .int n => some (number n)
  | .text s => some (text s)
  | _ => none

variable {v w : Value} {x y : Trait}

lemma of?_eq_some_iff : of? v = some x ↔ v.canonical = x.value := by
  constructor
  · intro h
    rw [of?] at h
    split at h <;> cases h <;> assumption
  · intro h
    rw [of?, h]
    cases x <;> rfl

lemma ne_moment_of_canonical (h : v.canonical = x.value) (m : Moment) : v ≠ .moment m := by
  rintro rfl
  cases x <;> cases h

/-- Values with a trait are the same exactly if they have the same one. -/
lemma sameScalar_iff (hv : v.canonical = x.value) (hw : w.canonical = y.value) :
    v.sameScalar w = true ↔ x = y := by
  have hcanonical : v.sameScalar w = (v.canonical == w.canonical) := by
    unfold Value.sameScalar
    split
    · exact absurd rfl (ne_moment_of_canonical hv _)
    · rfl
  rw [hcanonical, hv, hw]
  cases x <;> cases y <;> simp [value, BEq.beq, Value.beq]

lemma isKey_of_canonical (h : v.canonical = x.value) : v.isKey = true := by
  cases v <;> first | rfl | (cases x <;> cases h)

end Trait

/-- The traits of the place and the message of a finding. -/
@[ext]
structure Key where
  file : Trait
  line : Trait
  column : Trait
  message : Trait
deriving DecidableEq

/-- The key of a finding.  It has none if its place or its message is something else: a date, bytes,
a fraction or a container. -/
def key? (d : Diagnostic) : Option Key := do
  let file ← Trait.of? d.file
  let line ← Trait.of? d.line
  let column ← Trait.of? d.column
  let message ← Trait.of? d.message
  return { file, line, column, message }

/-- A finding is plain if it has a key. -/
def IsPlain (d : Diagnostic) : Prop :=
  ∃ k, d.key? = some k

lemma key?_eq_some_iff {d : Diagnostic} {k : Key} :
    d.key? = some k ↔ d.file.canonical = k.file.value ∧ d.line.canonical = k.line.value ∧
      d.column.canonical = k.column.value ∧ d.message.canonical = k.message.value := by
  simp only [← Trait.of?_eq_some_iff, key?, Option.bind_eq_some_iff, bind, pure]
  constructor
  · rintro ⟨file, hfile, line, hline, column, hcolumn, message, hmessage, hk⟩
    obtain rfl := Option.some.inj hk
    exact ⟨hfile, hline, hcolumn, hmessage⟩
  · rintro ⟨hfile, hline, hcolumn, hmessage⟩
    exact ⟨_, hfile, _, hline, _, hcolumn, _, hmessage, rfl⟩

namespace IsPlain

variable {d e : Diagnostic}

/-- A finding is plain if its file is a text, its line and its column are integers, or they are
missing, and its message is a text. -/
lemma of_typed (hfile : ∃ file : Option String, d.file = .ofOption .text file)
    (hline : ∃ line : Option Int, d.line = .ofOption .int line)
    (hcolumn : ∃ column : Option Int, d.column = .ofOption .int column)
    (hmessage : ∃ message : String, d.message = .text message) : d.IsPlain := by
  have htext : ∀ s : Option String, ∃ x : Trait, (Value.ofOption .text s).canonical = x.value := by
    rintro (_ | s)
    · exact ⟨.missing, rfl⟩
    · exact ⟨.text s, rfl⟩
  have hint : ∀ n : Option Int, ∃ x : Trait, (Value.ofOption .int n).canonical = x.value := by
    rintro (_ | n)
    · exact ⟨.missing, rfl⟩
    · exact ⟨.number n, rfl⟩
  obtain ⟨file, hfile⟩ := hfile
  obtain ⟨line, hline⟩ := hline
  obtain ⟨column, hcolumn⟩ := hcolumn
  obtain ⟨message, hmessage⟩ := hmessage
  obtain ⟨x, hx⟩ := htext file
  obtain ⟨y, hy⟩ := hint line
  obtain ⟨z, hz⟩ := hint column
  refine ⟨⟨x, y, z, .text message⟩, key?_eq_some_iff.2 ?_⟩
  rw [hfile, hline, hcolumn, hmessage]
  exact ⟨hx, hy, hz, rfl⟩

lemma isComparable (h : d.IsPlain) : d.isComparable = true := by
  obtain ⟨k, hk⟩ := h
  obtain ⟨hfile, hline, hcolumn, hmessage⟩ := key?_eq_some_iff.1 hk
  rw [Diagnostic.isComparable, Trait.isKey_of_canonical hfile, Trait.isKey_of_canonical hline,
    Trait.isKey_of_canonical hcolumn, Trait.isKey_of_canonical hmessage]
  rfl

/-- Plain findings are the same exactly if they have the same key. -/
lemma sameFinding_iff (hd : d.IsPlain) (he : e.IsPlain) :
    sameFinding d e = true ↔ d.key? = e.key? := by
  obtain ⟨k, hk⟩ := hd
  obtain ⟨l, hl⟩ := he
  obtain ⟨hfile, hline, hcolumn, hmessage⟩ := key?_eq_some_iff.1 hk
  obtain ⟨hfile', hline', hcolumn', hmessage'⟩ := key?_eq_some_iff.1 hl
  rw [sameFinding, Bool.and_eq_true, Bool.and_eq_true, Bool.and_eq_true,
    Trait.sameScalar_iff hfile hfile', Trait.sameScalar_iff hline hline',
    Trait.sameScalar_iff hcolumn hcolumn', Trait.sameScalar_iff hmessage hmessage', hk, hl,
    Option.some_inj, Key.ext_iff, and_assoc, and_assoc]

end IsPlain

/-! ## The findings seen so far -/

variable {seen xs ys : List Diagnostic} {d : Diagnostic}

lemma newAfter_sublist (seen ds : List Diagnostic) : (newAfter seen ds).Sublist ds := by
  induction ds generalizing seen with
  | nil => exact .slnil
  | cons d rest ih =>
    rw [newAfter]
    split
    · exact (ih seen).cons d
    · exact (ih (d :: seen)).cons_cons d

/-- What is left of some findings is among them, in their order. -/
lemma deduplicate_sublist (ds : List Diagnostic) : (deduplicate ds).Sublist ds :=
  newAfter_sublist [] ds

lemma any_sameFinding_iff (hseen : ∀ e ∈ seen, e.IsPlain) (hd : d.IsPlain) :
    seen.any (sameFinding · d) = true ↔ d.key? ∈ seen.map key? := by
  rw [List.any_eq_true, List.mem_map]
  exact exists_congr fun e => and_congr_right fun he => (hseen e he).sameFinding_iff hd

/-- Of what would be left, the findings stay whose key has not been seen. -/
lemma newAfter_eq_filter (hseen : ∀ e ∈ seen, e.IsPlain) (hxs : ∀ e ∈ xs, e.IsPlain) :
    newAfter seen xs = (deduplicate xs).filter (·.key? ∉ seen.map key?) := by
  induction xs generalizing seen with
  | nil => rfl
  | cons d rest ih =>
    obtain ⟨hd, hrest⟩ := List.forall_mem_cons.1 hxs
    have hfirst : deduplicate (d :: rest) =
        d :: (deduplicate rest).filter (·.key? ∉ [d].map key?) := by
      rw [← ih (by simpa using hd) hrest]
      rfl
    rw [hfirst, newAfter]
    by_cases hmem : d.key? ∈ seen.map key?
    · have hkept : ∀ e : Diagnostic, e.key? ∉ seen.map key? → e.key? ∉ [d].map key? := by
        intro e he hfirst
        rw [List.map_singleton, List.mem_singleton] at hfirst
        exact he (hfirst ▸ hmem)
      rw [if_pos ((any_sameFinding_iff hseen hd).2 hmem), ih hseen hrest,
        List.filter_cons_of_neg (by simpa using hmem), List.filter_filter]
      refine List.filter_congr fun e _ => ?_
      rw [← Bool.decide_and, decide_eq_decide, and_iff_left_of_imp (hkept e)]
    · rw [if_neg fun h => hmem ((any_sameFinding_iff hseen hd).1 h),
        ih (List.forall_mem_cons.2 ⟨hd, hseen⟩) hrest,
        List.filter_cons_of_pos (by simpa using hmem), List.filter_filter]
      refine congrArg (d :: ·) (List.filter_congr fun e _ => ?_)
      rw [← Bool.decide_and, decide_eq_decide, List.map_cons, List.mem_cons, not_or,
        List.map_singleton, List.mem_singleton, and_comm]

/-! ## The first of each group -/

/-- The first finding stays, and no other one with its key does. -/
lemma deduplicate_cons (hd : d.IsPlain) (hxs : ∀ e ∈ xs, e.IsPlain) :
    deduplicate (d :: xs) = d :: (deduplicate xs).filter (·.key? ≠ d.key?) := by
  have hseen : newAfter [d] xs = (deduplicate xs).filter (·.key? ≠ d.key?) := by
    rw [newAfter_eq_filter (by simpa using hd) hxs]
    simp
  rw [← hseen]
  rfl

/-- Of findings in two parts, those stay that stay in the first, and those of the second whose key
is not in the first. -/
lemma deduplicate_append (hxs : ∀ e ∈ xs, e.IsPlain) (hys : ∀ e ∈ ys, e.IsPlain) :
    deduplicate (xs ++ ys) =
      deduplicate xs ++ (deduplicate ys).filter (·.key? ∉ xs.map key?) := by
  induction xs with
  | nil => simp [deduplicate, newAfter]
  | cons d xs ih =>
    obtain ⟨hd, hxs⟩ := List.forall_mem_cons.1 hxs
    rw [List.cons_append, deduplicate_cons hd (List.forall_mem_append.2 ⟨hxs, hys⟩), ih hxs,
      deduplicate_cons hd hxs, List.filter_append, List.filter_filter, List.cons_append]
    refine congrArg (d :: ·) (congrArg (_ ++ ·) (List.filter_congr fun e _ => ?_))
    rw [← Bool.decide_and, decide_eq_decide, List.map_cons, List.mem_cons, not_or]

/-- For each key the first finding with it stays. -/
lemma find?_deduplicate (hxs : ∀ e ∈ xs, e.IsPlain) (k : Option Key) :
    (deduplicate xs).find? (·.key? = k) = xs.find? (·.key? = k) := by
  induction xs with
  | nil => rfl
  | cons d xs ih =>
    obtain ⟨hd, hxs⟩ := List.forall_mem_cons.1 hxs
    rw [deduplicate_cons hd hxs]
    by_cases hk : d.key? = k
    · rw [List.find?_cons_of_pos (by simpa using hk), List.find?_cons_of_pos (by simpa using hk)]
    · rw [List.find?_cons_of_neg (by simpa using hk), List.find?_cons_of_neg (by simpa using hk),
        ← ih hxs, List.find?_filter]
      refine List.find?_congr fun e _ => ?_
      rw [decide_eq_decide, decide_eq_true_eq, decide_eq_true_eq]
      exact and_iff_right_of_imp fun he => he ▸ Ne.symm hk

/-- No two findings that stay have the same key. -/
lemma nodup_keys_deduplicate (hxs : ∀ e ∈ xs, e.IsPlain) : ((deduplicate xs).map key?).Nodup := by
  induction xs with
  | nil => exact .nil
  | cons d xs ih =>
    obtain ⟨hd, hxs⟩ := List.forall_mem_cons.1 hxs
    rw [deduplicate_cons hd hxs, List.map_cons, List.nodup_cons]
    constructor
    · intro hmem
      obtain ⟨e, he, hkey⟩ := List.mem_map.1 hmem
      exact of_decide_eq_true (List.mem_filter.1 he).2 hkey
    · exact (ih hxs).sublist (List.filter_sublist.map key?)

/-- Where all keys differ, everything stays. -/
lemma deduplicate_of_nodup (hxs : ∀ e ∈ xs, e.IsPlain) (hkeys : (xs.map key?).Nodup) :
    deduplicate xs = xs := by
  induction xs with
  | nil => rfl
  | cons d xs ih =>
    obtain ⟨hd, hxs⟩ := List.forall_mem_cons.1 hxs
    obtain ⟨hnew, hkeys⟩ := List.nodup_cons.1 hkeys
    rw [deduplicate_cons hd hxs, ih hxs hkeys, List.filter_eq_self.2]
    intro e he
    refine decide_eq_true fun hkey => hnew ?_
    exact hkey ▸ List.mem_map_of_mem he

lemma isPlain_of_mem_deduplicate (hxs : ∀ e ∈ xs, e.IsPlain) : ∀ e ∈ deduplicate xs, e.IsPlain :=
  fun e he => hxs e ((deduplicate_sublist xs).subset he)

lemma deduplicate_deduplicate (hxs : ∀ e ∈ xs, e.IsPlain) :
    deduplicate (deduplicate xs) = deduplicate xs :=
  deduplicate_of_nodup (isPlain_of_mem_deduplicate hxs) (nodup_keys_deduplicate hxs)

lemma deduplicate?_eq (hxs : ∀ e ∈ xs, e.IsPlain) : deduplicate? xs = some (deduplicate xs) :=
  if_pos (List.all_eq_true.2 fun e he => (hxs e he).isComparable)

/-- Findings that are given several times leave what they leave if they are given once. -/
lemma deduplicate_flatten_replicate (hxs : ∀ e ∈ xs, e.IsPlain) (count : Nat) :
    deduplicate (List.replicate (count + 1) xs).flatten = deduplicate xs := by
  have hcopies : ∀ e ∈ (List.replicate count xs).flatten, e ∈ xs := by
    intro e he
    obtain ⟨copy, hcopy, hmem⟩ := List.mem_flatten.1 he
    rwa [List.eq_of_mem_replicate hcopy] at hmem
  rw [List.replicate_succ, List.flatten_cons,
    deduplicate_append hxs fun e he => hxs e (hcopies e he), List.filter_eq_nil_iff.2,
    List.append_nil]
  intro e he
  have hmem : e ∈ xs := hcopies e ((deduplicate_sublist _).subset he)
  simpa using ⟨e, hmem, rfl⟩

end Diagnostic

/-! ## Outputs printed several times -/

namespace CompilerOutput

open ProjectCheck.Text

lemma IsReadFrom.isPlain {d : Diagnostic} {line : List Char} {head : Head}
    {more : List (List Char)} (h : IsReadFrom d line head more) : d.IsPlain := by
  obtain ⟨lineNumber, -, hline⟩ := h.line
  obtain ⟨columnNumber, -, hcolumn⟩ := h.column
  exact .of_typed ⟨some _, h.file⟩ ⟨some _, hline⟩ ⟨some _, hcolumn⟩ ⟨_, h.message⟩

/-- The diagnostics of a compiler are plain findings. -/
lemma isPlain_of_mem_ofLines {xs : List (List Char)} {ds : List Diagnostic}
    (h : ofLines xs = .ok ds) : ∀ d ∈ ds, d.IsPlain := by
  intro d hd
  obtain ⟨line, head, more, hread⟩ := exists_isReadFrom h d hd
  exact hread.isPlain

/-- The first line of an output that is not blank is a head line. -/
def OpensWithHead (output : String) : Prop :=
  ∃ line head, (lines output).find? (· ≠ []) = some line ∧ IsHeadLine line head

variable {body : String}

/-- Nothing that such an output begins with continues a message. -/
lemma continuation_lines_of_opensWithHead (h : OpensWithHead (body ++ "\n")) (s : String) :
    continuation (lines (body ++ "\n" ++ s)) = [] := by
  obtain ⟨line, head, hfirst, hhead⟩ := h
  have hempty : lines "" = [[]] := rfl
  have hline : (lines body).find? (· ≠ []) = some line := by
    rw [← String.append_empty (s := body ++ "\n"), lines_append_feed, hempty,
      List.find?_append] at hfirst
    simpa using hfirst
  obtain ⟨hne, blanks, rest, hlines, hblanks⟩ := List.find?_eq_some_iff_append.1 hline
  have hfree : ∀ l ∈ blanks, hasLocation l = false := by
    intro l hl
    obtain rfl : l = [] := by simpa using hblanks l hl
    rfl
  have hnone : continuation blanks = [] := by
    rw [continuation, List.filter_eq_nil_iff]
    intro l hl
    obtain rfl : l = [] := by simpa using hblanks l ((List.takeWhile_prefix _).subset hl)
    simp
  have hlocation : hasLocation line = true := hasLocation_iff.2 hhead.holdsLocation
  rw [lines_append_feed, hlines, List.append_assoc, continuation_append_of_free hfree, hnone,
    List.cons_append, continuation_cons_of_location hlocation, List.append_nil]

/-- An output that ends with a line end is read apart from one behind it that no message goes on
with. -/
lemma parse_append {s : String} (hs : continuation (lines s) = []) :
    parse (body ++ "\n" ++ s) =
      (do
        let first ← parse (body ++ "\n")
        let second ← parse s
        return first ++ second) := by
  have hbody : parse (body ++ "\n") = ofLines (lines body) := by
    rw [← String.append_empty (s := body ++ "\n"), parse, lines_append_feed, ofLines_append_empty]
  rw [hbody, parse, lines_append_feed, ofLines_append _ hs]
  rfl

/-- An output printed so many times in a row. -/
def printed (count : Nat) (output : String) : String :=
  String.join (List.replicate count output)

lemma printed_succ (count : Nat) (output : String) :
    printed (count + 1) output = output ++ printed count output := by
  rw [← String.toList_inj, String.toList_append, printed, printed, String.toList_join,
    String.toList_join, List.replicate_succ, List.flatMap_cons]

/-- The diagnostics of an output that is printed several times are those of one copy, over and
over. -/
lemma parse_printed (h : OpensWithHead (body ++ "\n")) (count : Nat) :
    parse (printed (count + 1) (body ++ "\n")) =
      (parse (body ++ "\n")).map fun ds => (List.replicate (count + 1) ds).flatten := by
  induction count with
  | zero =>
    have hone : printed 1 (body ++ "\n") = body ++ "\n" := by
      rw [printed_succ]
      exact String.append_empty
    rw [hone]
    cases parse (body ++ "\n") with
    | error fault => rfl
    | ok ds => exact congrArg Except.ok (List.append_nil ds).symm
  | succ count ih =>
    have hbehind : continuation (lines (printed (count + 1) (body ++ "\n"))) = [] := by
      rw [printed_succ]
      exact continuation_lines_of_opensWithHead h _
    rw [printed_succ, parse_append hbehind, ih]
    cases parse (body ++ "\n") <;> rfl

/-- Printing an output several times does not make other findings once repetitions are removed. -/
lemma deduplicate_parse_printed (h : OpensWithHead (body ++ "\n")) (count : Nat) :
    (parse (printed (count + 1) (body ++ "\n"))).map Diagnostic.deduplicate =
      (parse (body ++ "\n")).map Diagnostic.deduplicate := by
  rw [parse_printed h]
  cases hparse : parse (body ++ "\n") with
  | error fault => rfl
  | ok ds =>
    exact congrArg Except.ok
      (Diagnostic.deduplicate_flatten_replicate (isPlain_of_mem_ofLines hparse) count)

end CompilerOutput

namespace Diagnostic

open CompilerOutput

/-- **Exactly the first findings stay.**  Removing repetitions from plain findings always succeeds,
and leaves some of them in their order: for each key the first finding with it, and no two with one
key.  Once removed, repetitions are gone; and of findings in two parts those stay that stay in the
first, and then those of the second whose key is not in the first.

So the findings in a compiler output that ends with a line end and opens with a head line are the
same, repetitions removed, however often the output is printed in a row. -/
theorem deduplicate_keeps_first :
    (∀ xs ys : List Diagnostic, (∀ d ∈ xs, d.IsPlain) → (∀ d ∈ ys, d.IsPlain) →
      deduplicate? xs = some (deduplicate xs) ∧
      (deduplicate xs).Sublist xs ∧
      ((deduplicate xs).map key?).Nodup ∧
      (∀ k, (deduplicate xs).find? (·.key? = k) = xs.find? (·.key? = k)) ∧
      deduplicate (deduplicate xs) = deduplicate xs ∧
      deduplicate (xs ++ ys) =
        deduplicate xs ++ (deduplicate ys).filter (·.key? ∉ xs.map key?)) ∧
    ∀ (body : String) (count : Nat), OpensWithHead (body ++ "\n") →
      (parse (printed (count + 1) (body ++ "\n"))).map deduplicate =
        (parse (body ++ "\n")).map deduplicate := by
  refine ⟨fun xs ys hxs hys => ?_, fun body count h => deduplicate_parse_printed h count⟩
  exact ⟨deduplicate?_eq hxs, deduplicate_sublist xs, nodup_keys_deduplicate hxs,
    find?_deduplicate hxs, deduplicate_deduplicate hxs, deduplicate_append hxs hys⟩

/-- A finding on a line of some file. -/
def missingMark (severity : Severity) (line : Int) : Diagnostic where
  subject := .build
  category := .typeScript
  message := .text "';' expected."
  severity
  file := .text "a.ts"
  line := .int line

lemma isPlain_missingMark {severity : Severity} {line : Int} :
    (missingMark severity line).IsPlain :=
  .of_typed ⟨some _, rfl⟩ ⟨some _, rfl⟩ ⟨none, rfl⟩ ⟨_, rfl⟩

/-- Of three findings the first two have one key, and the second of them goes; an output that is
printed three times leaves one finding. -/
theorem deduplicate_missingMark :
    deduplicate ([missingMark .high 1, missingMark .low 1] ++ [missingMark .low 2]) =
        [missingMark .high 1, missingMark .low 2] ∧
      ∃ d, (parse (printed 3 ("a.ts(1,2): error TS1005: ';' expected." ++ "\n"))).map deduplicate =
          .ok [d] ∧ d.message = .text "';' expected." := by
  obtain ⟨hlists, hprinted⟩ := deduplicate_keeps_first
  constructor
  · have hsame : (missingMark .low 1).key? = (missingMark .high 1).key? := rfl
    have hother : (missingMark .low 2).key? ∉
        [missingMark .high 1, missingMark .low 1].map key? := by decide
    have hfirst : deduplicate [missingMark .high 1, missingMark .low 1] =
        [missingMark .high 1] := by
      rw [deduplicate_cons isPlain_missingMark (by simp [isPlain_missingMark])]
      simp [deduplicate, newAfter, hsame]
    have hsecond : deduplicate [missingMark .low 2] = [missingMark .low 2] := rfl
    obtain ⟨-, -, -, -, -, happend⟩ :=
      hlists [missingMark .high 1, missingMark .low 1] [missingMark .low 2]
        (by simp [isPlain_missingMark]) (by simp [isPlain_missingMark])
    rw [happend, hfirst, hsecond, List.filter_eq_self.2 (by simpa using hother)]
    rfl
  · have hopens : OpensWithHead ("a.ts(1,2): error TS1005: ';' expected." ++ "\n") :=
      ⟨_, _, rfl, head?_eq_some_iff.1 rfl⟩
    obtain ⟨d, hone, hmessage⟩ : ∃ d,
        (parse ("a.ts(1,2): error TS1005: ';' expected." ++ "\n")).map deduplicate = .ok [d] ∧
          d.message = .text "';' expected." :=
      ⟨_, rfl, rfl⟩
    exact ⟨d, (hprinted "a.ts(1,2): error TS1005: ';' expected." 2 hopens).trans hone, hmessage⟩

end Diagnostic

end ProjectCheck
