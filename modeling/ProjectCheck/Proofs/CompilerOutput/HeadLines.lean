import Mathlib.Data.List.Forall2
import ProjectCheck.Proofs.CompilerOutput.Streams

/-!
# One diagnostic for each head line

From any output, whatever it holds, one diagnostic is read for each head line, in their order, with
what the head line says and the lines up to the next location (`parse_describes_head_lines`).  A
head line and these lines are a block; no head line is in the block of another, since a head line
has a location (`Block.place_add_length_lt`).  So the diagnostics can be counted line by line.
-/

namespace ProjectCheck.CompilerOutput

open ProjectCheck.Number ProjectCheck.Text

lemma IsHeadLine.holdsLocation {s : List Char} {head : Head} (h : IsHeadLine s head) :
    HoldsLocation s.tail :=
  hasLocation_iff.1 (hasLocation_of_head? (head?_eq_some_iff.2 h))

/-! ## Blocks of lines -/

variable {xs ys before after : List (List Char)} {line : List Char} {head : Head}

/-- A head line among lines, with the lines up to the next location. -/
structure Block (xs : List (List Char)) where
  /-- The place of the head line. -/
  place : Nat
  line : List Char
  head : Head
  /-- The lines up to the next location. -/
  more : List (List Char)
  /-- The lines from the next location on. -/
  after : List (List Char)
  isHeadLine : IsHeadLine line head
  drop_place : xs.drop place = line :: (more ++ after)
  more_free : ∀ l ∈ more, ¬ HoldsLocation l.tail
  after_location : ∀ l ∈ after.head?, HoldsLocation l.tail

namespace Block

/-- A block takes up its head line and the lines up to the next location. -/
def Covers (b : Block xs) (i : Nat) : Prop :=
  b.place ≤ i ∧ i ≤ b.place + b.more.length

/-- The block of a head line. -/
def ofDrop (place : Nat) (hplace : xs.drop place = line :: ys) (hhead : IsHeadLine line head) :
    Block xs where
  place
  line
  head
  more := ys.takeWhile fun l => ¬ HoldsLocation l.tail
  after := ys.dropWhile fun l => ¬ HoldsLocation l.tail
  isHeadLine := hhead
  drop_place := by rw [List.takeWhile_append_dropWhile, hplace]
  more_free := fun l hl => by simpa using List.mem_takeWhile_imp hl
  after_location := fun l hl => by
    have hstop := List.head?_dropWhile_not (fun l : List Char => decide (¬ HoldsLocation l.tail)) ys
    rw [Option.mem_def.1 hl] at hstop
    simpa using hstop

/-- The block of a head line reaches as far as no location follows. -/
lemma covers_ofDrop {place : Nat} {rest : List (List Char)}
    (hplace : xs.drop place = line :: (rest ++ ys)) (hhead : IsHeadLine line head)
    (hfree : ∀ l ∈ rest, ¬ HoldsLocation l.tail) :
    (ofDrop place hplace hhead).Covers (place + rest.length) := by
  have hall : ∀ l ∈ rest, decide (¬ HoldsLocation l.tail) = true := fun l hl =>
    decide_eq_true (hfree l hl)
  have hmore : (ofDrop place hplace hhead).more =
      rest ++ ys.takeWhile fun l => ¬ HoldsLocation l.tail := List.takeWhile_append_of_pos hall
  refine ⟨Nat.le_add_right place rest.length, Nat.add_le_add_left ?_ place⟩
  rw [hmore, List.length_append]
  exact Nat.le_add_right _ _

/-- A block with one more line in front of all. -/
def behind (line : List Char) (b : Block xs) : Block (line :: xs) :=
  { b with place := b.place + 1, drop_place := b.drop_place }

lemma getElem?_place (b : Block xs) : xs[b.place]? = some b.line := by
  rw [← List.head?_drop, b.drop_place, List.head?_cons]

lemma getElem?_behind_place (b : Block xs) (n : Nat) :
    xs[b.place + (n + 1)]? = (b.more ++ b.after)[n]? := by
  rw [← List.getElem?_drop, b.drop_place, List.getElem?_cons_succ]

/-- A block ends in front of the next head line. -/
lemma place_add_length_lt {b c : Block xs} (h : b.place < c.place) :
    b.place + b.more.length < c.place := by
  by_contra hle
  obtain ⟨n, hn⟩ : ∃ n, c.place = b.place + (n + 1) := Nat.exists_eq_add_of_lt h
  have hlt : n < b.more.length := by omega
  have hline : b.more[n]? = some c.line := by
    rw [← List.getElem?_append_left hlt, ← b.getElem?_behind_place, ← hn, c.getElem?_place]
  exact b.more_free _ (List.mem_of_getElem? hline) c.isHeadLine.holdsLocation

end Block

/-- The blocks of lines, in their order. -/
def blocks : (xs : List (List Char)) → List (Block xs)
  | [] => []
  | line :: rest =>
    match h : head? line with
    | none => (blocks rest).map (Block.behind line)
    | some _ =>
      Block.ofDrop 0 rfl (head?_eq_some_iff.1 h) :: (blocks rest).map (Block.behind line)

/-- No line is in two blocks. -/
lemma pairwise_blocks (xs : List (List Char)) :
    (blocks xs).Pairwise fun a b => a.place + a.more.length < b.place := by
  suffices hplaces : (blocks xs).Pairwise fun a b => a.place < b.place from
    hplaces.imp Block.place_add_length_lt
  induction xs with
  | nil => exact .nil
  | cons line rest ih =>
    have hrest : ((blocks rest).map (Block.behind line)).Pairwise fun a b => a.place < b.place :=
      List.pairwise_map.2 (ih.imp Nat.succ_lt_succ)
    rw [blocks]
    split
    · exact hrest
    · refine List.pairwise_cons.2 ⟨fun b hb => ?_, hrest⟩
      obtain ⟨b, -, rfl⟩ := List.mem_map.1 hb
      exact Nat.succ_pos b.place

/-- Every head line begins a block. -/
lemma exists_mem_blocks {i : Nat} (hline : xs[i]? = some line) (hhead : IsHeadLine line head) :
    ∃ b ∈ blocks xs, b.place = i := by
  induction xs generalizing i with
  | nil => simp at hline
  | cons first rest ih =>
    cases i with
    | zero =>
      obtain rfl : first = line := by simpa using hline
      rw [blocks]
      split
      · rename_i hnone
        rw [head?_eq_some_iff.2 hhead] at hnone
        contradiction
      · exact ⟨_, List.mem_cons_self, rfl⟩
    | succ i =>
      obtain ⟨b, hb, rfl⟩ := ih (i := i) (by simpa using hline)
      have hbehind := List.mem_map_of_mem (f := Block.behind first) hb
      rw [blocks]
      split
      · exact ⟨_, hbehind, rfl⟩
      · exact ⟨_, List.mem_cons_of_mem _ hbehind, rfl⟩

/-! ## Diagnostics of blocks -/

/-- A diagnostic says what a head line says; its message goes on with the lines `more`, without
blank ones and summaries. -/
structure IsReadFrom (d : Diagnostic) (line : List Char) (head : Head) (more : List (List Char)) :
    Prop where
  subject : d.subject = .build
  category : d.category = .typeScript
  severity : d.severity = severityOfCode (String.ofList head.code)
  autoFixable : d.autoFixable = .bool (isFixableCode (String.ofList head.code))
  details : d.details =
    .record
      [("error_code", .text (String.ofList head.code)),
       ("compiler_output", .text (String.ofList line)), ("analysis_type", .text "tsc_compiler")]
  file : d.file = .text (String.ofList head.file)
  line : ∃ n, readDigits head.line = .ok n ∧ d.line = .ofNat n
  column : ∃ n, readDigits head.column = .ok n ∧ d.column = .ofNat n
  message : d.message = .text (String.ofList (joinWith [' ']
    (trim head.message :: more.filter fun l => l ≠ [] ∧ ¬ IsSummary l)))

lemma isReadFrom_of_diagnosticOf {d : Diagnostic} (h : diagnosticOf line head ys = .ok d) :
    IsReadFrom d line head (ys.takeWhile fun l => ¬ HoldsLocation l.tail) := by
  obtain ⟨lineNumber, columnNumber, hline, hcolumn⟩ := exists_readDigits_of_diagnosticOf h
  rw [diagnosticOf, hline, hcolumn, continuation_eq_opening] at h
  obtain rfl := Except.ok.inj h
  exact
    { subject := rfl
      category := rfl
      severity := rfl
      autoFixable := rfl
      details := rfl
      file := rfl
      line := ⟨lineNumber, hline, rfl⟩
      column := ⟨columnNumber, hcolumn, rfl⟩
      message := rfl }

/-- **One diagnostic for each block.** -/
theorem forall₂_blocks {ds : List Diagnostic} (h : ofLines xs = .ok ds) :
    List.Forall₂ (fun b d => IsReadFrom d b.line b.head b.more) (blocks xs) ds := by
  induction xs generalizing ds with
  | nil =>
    obtain rfl := Except.ok.inj h
    exact .nil
  | cons line rest ih =>
    rw [blocks]
    split
    · rename_i hnone
      rw [ofLines_cons_of_none hnone] at h
      exact List.forall₂_map_left_iff.2 (ih h)
    · rename_i head hhead
      rw [ofLines_cons_of_some hhead] at h
      cases hfirst : diagnosticOf line head rest with
      | error fault => simp [hfirst, bind, Except.bind] at h
      | ok d =>
        cases hrest : ofLines rest with
        | error fault => simp [hfirst, hrest, bind, Except.bind] at h
        | ok others =>
          rw [hfirst, hrest] at h
          obtain rfl := Except.ok.inj h
          exact .cons (isReadFrom_of_diagnosticOf hfirst) (List.forall₂_map_left_iff.2 (ih hrest))

/-- Every diagnostic is read from some head line. -/
lemma exists_isReadFrom {ds : List Diagnostic} (h : ofLines xs = .ok ds) :
    ∀ d ∈ ds, ∃ line head more, IsReadFrom d line head more := by
  have hread := forall₂_blocks h
  clear h
  generalize blocks xs = bs at hread
  induction hread with
  | nil => simp
  | cons hfirst _ ih => exact List.forall_mem_cons.2 ⟨⟨_, _, _, hfirst⟩, ih⟩

lemma length_blocks (xs : List (List Char)) :
    (blocks xs).length = xs.countP fun l => (head? l).isSome := by
  induction xs with
  | nil => rfl
  | cons line rest ih =>
    rw [blocks]
    split
    · rename_i hnone
      rw [List.countP_cons_of_neg (by simp [hnone]), List.length_map, ih]
    · rename_i head hhead
      rw [List.countP_cons_of_pos (by simp [hhead]), List.length_cons, List.length_map, ih]

/-- Diagnostics can be counted line by line. -/
lemma length_of_ofLines {ds : List Diagnostic} (h : ofLines xs = .ok ds) :
    ds.length = xs.countP fun l => (head? l).isSome := by
  rw [← (forall₂_blocks h).length_eq, length_blocks]

/-! ## Lines in no block -/

/-- A line in no block divides the lines in front of it from those behind it. -/
lemma ofLines_append_cons_of_not_covers
    (h : ∀ b : Block (before ++ line :: after), ¬ b.Covers before.length) :
    ofLines (before ++ line :: after) =
      (do
        let first ← ofLines before
        let second ← ofLines after
        return first ++ second) := by
  have hnone : head? line = none := by
    by_contra hsome
    obtain ⟨head, hhead⟩ := Option.ne_none_iff_exists'.1 hsome
    have hplace : (before ++ line :: after).drop before.length = line :: ([] ++ after) :=
      List.drop_left
    exact h _ (Block.covers_ofDrop hplace (head?_eq_some_iff.1 hhead) (by simp))
  cases hline : hasLocation line with
  | true =>
    rw [ofLines_append before (continuation_cons_of_location hline after),
      ofLines_cons_of_none hnone]
  | false =>
    have hclosed : ¬ LeavesOpen before := by
      rintro ⟨front, opened, rest, rfl, hsome, hrest⟩
      obtain ⟨head, hhead⟩ := Option.isSome_iff_exists.1 hsome
      have hplace : (front ++ opened :: rest ++ line :: after).drop front.length =
          opened :: (rest ++ [line] ++ after) := by simp
      have hfree : ∀ l ∈ rest ++ [line], ¬ HoldsLocation l.tail :=
        List.forall_mem_append.2 ⟨hrest, by simpa using hasLocation_eq_false_iff.1 hline⟩
      have hcovers := Block.covers_ofDrop hplace (head?_eq_some_iff.1 hhead) hfree
      rw [List.length_append] at hcovers
      exact h _ (by simpa using hcovers)
    rw [ofLines_append_of_not_leavesOpen hclosed, ofLines_cons_of_none hnone]

/-! ## One head line, one diagnostic -/

/-- **No diagnostic is lost, and no line is used twice.**  From an output whose numbers of locations
are not too long, one diagnostic is read for each block, with what its lines say.  Each head line
begins a block, the blocks do not overlap, and a line in no block can be changed for any other such
line.  So the diagnostics of two outputs, one below the other, are as many as those of both. -/
theorem parse_describes_head_lines (output : String) (h : ShortNumbers output) :
    ∃ diagnostics, parse output = .ok diagnostics ∧
      List.Forall₂ (fun b d => IsReadFrom d b.line b.head b.more) (blocks (lines output))
        diagnostics ∧
      (∀ i line head, (lines output)[i]? = some line → IsHeadLine line head →
        ∃ b ∈ blocks (lines output), b.place = i) ∧
      (blocks (lines output)).Pairwise (fun a b => a.place + a.more.length < b.place) ∧
      (∀ before line line' after other, lines output = before ++ line :: after →
        lines other = before ++ line' :: after →
        (∀ b : Block (lines output), ¬ b.Covers before.length) →
        (∀ b : Block (lines other), ¬ b.Covers before.length) → parse other = parse output) ∧
      ∀ more, ShortNumbers more → ∃ others both, parse more = .ok others ∧
        parse (output ++ "\n" ++ more) = .ok both ∧
        both.length = diagnostics.length + others.length := by
  obtain ⟨diagnostics, hdiagnostics⟩ := h.exists_ofLines fun _ hl => hl
  refine ⟨diagnostics, hdiagnostics, forall₂_blocks hdiagnostics,
    fun i line head => exists_mem_blocks, pairwise_blocks _, ?changed, ?below⟩
  case changed =>
    intro before line line' after other hlines hother hcovers hcovers'
    rw [hlines] at hcovers
    rw [hother] at hcovers'
    rw [parse, parse, hlines, hother, ofLines_append_cons_of_not_covers hcovers,
      ofLines_append_cons_of_not_covers hcovers']
  case below =>
    intro more hmore
    obtain ⟨others, hothers⟩ := hmore.exists_ofLines fun _ hl => hl
    have hshort : ∀ l ∈ lines (output ++ "\n" ++ more), ∀ head ∈ head? l, head.IsShort := by
      intro l hl head hhead
      rw [lines_append_feed, List.mem_append] at hl
      exact hl.elim (fun hl => h.isShort hl hhead) fun hl => hmore.isShort hl hhead
    obtain ⟨both, hboth⟩ := exists_ofLines hshort
    refine ⟨others, both, hothers, hboth, ?_⟩
    rw [length_of_ofLines hboth, length_of_ofLines hdiagnostics, length_of_ofLines hothers,
      lines_append_feed, List.countP_append]

/-- Two errors, with a remark between them. -/
def remarked : String :=
  "a(1,2): error TS2304: No x.\r\n  y\nFound 1 error.\na(9,9): note\nlost\nb(3,4): error TS1: Off"

/-- The blocks of both errors. -/
lemma blocks_remarked : (blocks (lines remarked)).map (fun b => (b.head.message, b.more)) =
    [("No x.".toList, ["y".toList, "Found 1 error.".toList]), ("Off".toList, [])] := by
  decide +kernel

/-- The remark ends the message of the first error and belongs to none. -/
theorem parse_remarked : ∃ first second, parse remarked = .ok [first, second] ∧
    first.message = .text "No x. y" ∧ second.message = .text "Off" := by
  have hlen : remarked.toList.length ≤ integerDigitLimit := by decide +kernel
  obtain ⟨diagnostics, hdiagnostics, hboth, -⟩ :=
    parse_describes_head_lines remarked (.of_length_le hlen)
  obtain ⟨b, rest, hblocks, hb, hrest⟩ := List.map_eq_cons_iff.1 blocks_remarked
  obtain ⟨c, rest, rfl, hc, hrest⟩ := List.map_eq_cons_iff.1 hrest
  obtain rfl := List.map_eq_nil_iff.1 hrest
  rw [hblocks] at hboth
  obtain _ | ⟨hfirst, _ | ⟨hsecond, _ | _⟩⟩ := hboth
  obtain ⟨hmessage, hmore⟩ := Prod.mk.inj hb
  obtain ⟨hmessage', hmore'⟩ := Prod.mk.inj hc
  refine ⟨_, _, hdiagnostics, ?_, ?_⟩
  · rw [hfirst.message, hmessage, hmore]
    rfl
  · rw [hsecond.message, hmessage', hmore']
    rfl

end ProjectCheck.CompilerOutput
