import ProjectCheck.Manifest.Basic
import ProjectCheck.Proofs.Json.Reading
import ProjectCheck.Proofs.Text.Occurrence
import ProjectCheck.Proofs.Text.Trimming

/-!
# Removing comments and extra commas

The two passes over a manifest stay in step with its tokens.  The first one can be followed piece
by piece, since what it does with a piece does not depend on what follows (`stripComments_pieces`).
The second one looks ahead from a comma to the next character that is not blank, so it is followed
over the tree: there a comma stands before a bracket exactly if it is an extra one
(`stripTrailingCommas_node`).  What remains is read as what the tokens mean
(`stripping_keeps_tokens`).
-/

namespace ProjectCheck.Manifest

open ProjectCheck.Text ProjectCheck.Json

/-! ## Strings -/

lemma takeQuoted?_cons {c : Char} (hquote : c ≠ '"') (hback : c ≠ '\\') (acrossLines : Bool)
    (s : List Char) : takeQuoted? acrossLines (c :: s) =
      (takeQuoted? acrossLines s).map fun cut => (c :: cut.1, cut.2) := by
  rw [takeQuoted?, if_neg (by simpa using hback)]
  · exact hquote
  · exact fun _ _ hc => absurd hc hback

lemma takeQuoted?_escape {c : Char} (hline : c ≠ '\n') (acrossLines : Bool) (s : List Char) :
    takeQuoted? acrossLines ('\\' :: c :: s) =
      (takeQuoted? acrossLines s).map fun cut => ('\\' :: c :: cut.1, cut.2) := by
  rw [takeQuoted?, if_neg (by simp [hline])]

/-- A part of a string never ends it. -/
lemma takeQuoted?_part (acrossLines : Bool) (part : StringPart) (s : List Char) :
    takeQuoted? acrossLines (part.text ++ s) =
      (takeQuoted? acrossLines s).map fun cut => (part.text ++ cut.1, cut.2) := by
  cases part with
  | plain c => exact takeQuoted?_cons c.notQuote c.notBackslash acrossLines s
  | letter c known =>
    have hline : c ≠ '\n' := by
      rintro rfl
      exact absurd known (by decide)
    exact takeQuoted?_escape hline acrossLines s
  | code a b c d =>
    obtain ⟨ha, ha'⟩ := a.ne_quote_and_backslash
    obtain ⟨hb, hb'⟩ := b.ne_quote_and_backslash
    obtain ⟨hc, hc'⟩ := c.ne_quote_and_backslash
    obtain ⟨hd, hd'⟩ := d.ne_quote_and_backslash
    have hu : 'u' ≠ '\n' := by decide
    simp only [StringPart.text, List.cons_append, List.nil_append, takeQuoted?_escape hu,
      takeQuoted?_cons ha ha', takeQuoted?_cons hb hb', takeQuoted?_cons hc hc',
      takeQuoted?_cons hd hd', Option.map_map]
    rfl

/-- Both passes take a string whole. -/
theorem takeQuoted?_inner (acrossLines : Bool) (parts : List StringPart) (rest : List Char) :
    takeQuoted? acrossLines (inner parts ++ '"' :: rest) = some (inner parts ++ ['"'], rest) := by
  induction parts with
  | nil => rfl
  | cons part parts ih =>
    rw [inner_cons, List.append_assoc, takeQuoted?_part, ih, Option.map_some, List.append_assoc]

/-! ## The first pass -/

/-- A pass that leaves each of some characters leaves all of them. -/
lemma append_of_leaves {pass : List Char → List Char} {cs : List Char}
    (h : ∀ c ∈ cs, ∀ s, pass (c :: s) = c :: pass s) (s : List Char) :
    pass (cs ++ s) = cs ++ pass s := by
  induction cs with
  | nil => rfl
  | cons c cs ih =>
    rw [List.cons_append, h c List.mem_cons_self,
      ih fun other hother => h other (List.mem_cons_of_mem _ hother), List.cons_append]

lemma stripComments_cons {c : Char} (hquote : c ≠ '"') (hslash : c ≠ '/') (s : List Char) :
    stripComments (c :: s) = c :: stripComments s := by
  rw [stripComments]
  · exact hquote
  · exact fun rest hc => absurd hc hslash
  · exact fun rest hc => absurd hc hslash

lemma stripComments_string (parts : List StringPart) (s : List Char) :
    stripComments ('"' :: (inner parts ++ '"' :: s)) =
      '"' :: (inner parts ++ '"' :: stripComments s) := by
  rw [stripComments]
  split
  next body after h =>
    rw [takeQuoted?_inner, Option.some.injEq, Prod.mk.injEq] at h
    obtain ⟨rfl, rfl⟩ := h
    simp
  next h =>
    rw [takeQuoted?_inner] at h
    cases h

/-- A line comment is removed up to the line feed. -/
lemma stripComments_line {body : List Char} (h : '\n' ∉ body) (s : List Char) :
    stripComments ('/' :: '/' :: (body ++ s)) = stripComments (s.dropWhile (· != '\n')) := by
  rw [stripComments, List.dropWhile_append_of_pos (bne_of_notMem h)]

/-- The closing of a block comment is found where it is written. -/
lemma firstAtEnd_of_absent {body : List Char} (h : ¬ ['*', '/'] <:+: body) :
    FirstAtEnd ['*', '/'] body := by
  intro a b hab
  rcases List.eq_nil_or_concat b with hb | ⟨b, last, rfl⟩
  · exact hb
  · -- an earlier closing would lie in the body, or overlap with the one at the end
    rw [List.concat_eq_append, ← List.append_assoc,
      show body ++ ['*', '/'] = body ++ ['*'] ++ ['/'] by simp] at hab
    have hstar := (List.append_inj' hab rfl).1
    rcases List.eq_nil_or_concat b with rfl | ⟨b, last, rfl⟩
    · rw [List.append_nil, show a ++ ['*', '/'] = a ++ ['*'] ++ ['/'] by simp] at hstar
      exact absurd (List.append_inj' hstar rfl).2 (by decide)
    · rw [List.concat_eq_append, ← List.append_assoc] at hstar
      exact absurd ⟨a, b, (List.append_inj' hstar rfl).1.symm⟩ h

lemma stripComments_block {body : List Char} (h : ¬ ['*', '/'] <:+: body) (s : List Char) :
    stripComments ('/' :: '*' :: (body ++ '*' :: '/' :: s)) = stripComments s := by
  have hcut : cutAt? ['*', '/'] (body ++ '*' :: '/' :: s) = some (body, s) := by
    have happend := cutAt?_append (firstAtEnd_of_absent h) s
    rwa [List.append_assoc] at happend
  rw [stripComments]
  split
  next before after hfound =>
    rw [hcut, Option.some.injEq, Prod.mk.injEq] at hfound
    rw [hfound.2]
  next hnone =>
    rw [hcut] at hnone
    cases hnone

/-- **The first pass, piece by piece.** -/
theorem stripComments_piece (piece : Piece) (s : List Char) :
    stripComments (piece.text ++ s) = piece.left .comments ++ stripComments s := by
  cases piece with
  | trivia t =>
    cases t with
    | blank c isBlank =>
      refine stripComments_cons ?_ ?_ s
      all_goals
        rintro rfl
        exact absurd isBlank (by decide)
    | block body closedOnce =>
      rw [show (Piece.trivia (.block body closedOnce)).text ++ s =
        '/' :: '*' :: (body ++ '*' :: '/' :: s) by simp [Piece.text, Trivia.text]]
      exact stripComments_block closedOnce s
    | line body oneLine =>
      rw [show (Piece.trivia (.line body oneLine)).text ++ s =
        '/' :: '/' :: (body ++ '\n' :: s) by simp [Piece.text, Trivia.text]]
      rw [stripComments_line oneLine]
      exact stripComments_cons (by decide) (by decide) s
  | word w =>
    refine append_of_leaves (fun c hc => ?_) s
    obtain ⟨hquote, hslash, -⟩ := w.isOrdinary c hc
    exact stripComments_cons hquote hslash
  | string parts =>
    have hstring := stripComments_string parts s
    simpa [Piece.text, Piece.left] using hstring
  | mark c isMark =>
    refine stripComments_cons ?_ ?_ s
    all_goals
      rintro rfl
      exact absurd isMark (by decide)
  | extraComma => exact stripComments_cons (by decide) (by decide) s

/-- **The first pass removes the comments.** -/
theorem stripComments_pieces (pieces : List Piece) (s : List Char) :
    stripComments (pieces.flatMap Piece.text ++ s) =
      leftOf .comments pieces ++ stripComments s := by
  induction pieces with
  | nil => rfl
  | cons piece pieces ih =>
    simp only [List.flatMap_cons, leftOf_cons, List.append_assoc, stripComments_piece, ih]

/-- An unfinished line comment is removed. -/
lemma stripComments_unfinished (body : { body : List Char // '\n' ∉ body }) :
    stripComments ('/' :: '/' :: body.val) = [] := by
  have hline := stripComments_line body.property []
  rw [List.append_nil] at hline
  rw [hline, List.dropWhile_nil, stripComments]

lemma stripComments_document (d : Document) :
    stripComments d.text = leftOf .comments d.pieces := by
  rw [Document.text, stripComments_pieces]
  cases d.unfinished with
  | none => rw [Option.elim_none, stripComments, List.append_nil]
  | some body => rw [Option.elim_some, stripComments_unfinished, List.append_nil]

/-! ## The second pass -/

lemma stripTrailingCommas_cons {c : Char} (hquote : c ≠ '"') (hcomma : c ≠ ',') (s : List Char) :
    stripTrailingCommas (c :: s) = c :: stripTrailingCommas s := by
  rw [stripTrailingCommas]
  · exact hquote
  · exact hcomma

lemma stripTrailingCommas_string (parts : List StringPart) (s : List Char) :
    stripTrailingCommas ('"' :: (inner parts ++ '"' :: s)) =
      '"' :: (inner parts ++ '"' :: stripTrailingCommas s) := by
  rw [stripTrailingCommas]
  split
  next body after h =>
    rw [takeQuoted?_inner, Option.some.injEq, Prod.mk.injEq] at h
    obtain ⟨rfl, rfl⟩ := h
    simp
  next h =>
    rw [takeQuoted?_inner] at h
    cases h

/-- A comma before an item stays. -/
lemma stripTrailingCommas_comma {blanks : List Char} (hblanks : ∀ c ∈ blanks, isBlank c = true)
    {c : Char} (hc : OpensItem c) (s : List Char) :
    stripTrailingCommas (',' :: (blanks ++ c :: s)) =
      ',' :: stripTrailingCommas (blanks ++ c :: s) := by
  obtain ⟨hblank, harray, hobject⟩ := hc
  rw [stripTrailingCommas]
  split
  next => rfl
  next first after hfirst =>
    rw [trimStart_append hblanks hblank, List.cons.injEq] at hfirst
    rw [← hfirst.1, if_neg (by simp [harray, hobject])]

/-- A comma before a closing bracket is removed, and the white space between them stays. -/
lemma stripTrailingCommas_extra {blanks : List Char} (hblanks : ∀ c ∈ blanks, isBlank c = true)
    (shape : Shape) (s : List Char) :
    stripTrailingCommas (',' :: (blanks ++ shape.closing :: s)) =
      blanks ++ shape.closing :: stripTrailingCommas s := by
  have hblank : isBlank shape.closing = false := by cases shape <;> decide
  have hcloses : (shape.closing == '\x7d' || shape.closing == ']') = true := by
    cases shape <;> decide
  rw [stripTrailingCommas]
  split
  next hnil =>
    rw [trimStart_append hblanks hblank] at hnil
    cases hnil
  next first after hfirst =>
    rw [trimStart_append hblanks hblank, List.cons.injEq] at hfirst
    obtain ⟨rfl, rfl⟩ := hfirst
    rw [if_pos hcloses, takeWhile_append_of_stops hblanks (by simpa using hblank)]

lemma stripTrailingCommas_closing (shape : Shape) (s : List Char) :
    stripTrailingCommas (shape.closing :: s) = shape.closing :: stripTrailingCommas s := by
  refine stripTrailingCommas_cons ?_ ?_ s <;> cases shape <;> decide

lemma stripTrailingCommas_opening (shape : Shape) (s : List Char) :
    stripTrailingCommas (shape.opening :: s) = shape.opening :: stripTrailingCommas s := by
  refine stripTrailingCommas_cons ?_ ?_ s <;> cases shape <;> decide

/-- The white space of JSON is blank. -/
lemma isBlank_of_mem {c : Char} (h : c ∈ whiteSpace) : isBlank c = true := by
  rcases mem_whiteSpace.1 h with rfl | rfl | rfl | rfl <;> decide

lemma stripTrailingCommas_gap (gap : Gap) (s : List Char) :
    stripTrailingCommas (gap.left ++ s) = gap.left ++ stripTrailingCommas s := by
  refine append_of_leaves (fun c hc => stripTrailingCommas_cons ?_ ?_) s
  all_goals
    rintro rfl
    exact absurd (mem_left hc) (by decide)

lemma stripTrailingCommas_label {shape : Shape} (label : Label shape) (s : List Char) :
    stripTrailingCommas (leftOf .comments label.pieces ++ s) =
      leftOf .all label.pieces ++ stripTrailingCommas s := by
  cases shape with
  | array => rfl
  | object =>
    rw [leftOf_object, leftOf_object, stripTrailingCommas_string, stripTrailingCommas_gap,
      stripTrailingCommas_cons (by decide) (by decide), stripTrailingCommas_gap]

/-- An extra comma is removed before a closing bracket. -/
lemma stripTrailingCommas_extraPieces (extra : Option Gap) (shape : Shape) (s : List Char) :
    stripTrailingCommas (leftOf .comments (extraPieces extra) ++ shape.closing :: s) =
      leftOf .all (extraPieces extra) ++ shape.closing :: stripTrailingCommas s := by
  cases extra with
  | none => exact stripTrailingCommas_closing shape s
  | some gap =>
    rw [extraPieces, leftOf_cons, leftOf_cons, leftOf_gap, leftOf_gap]
    exact stripTrailingCommas_extra (fun c hc => isBlank_of_mem (mem_left hc)) shape s

/-! ### Over a tree -/

mutual

/-- The second pass removes the extra commas of a value. -/
theorem stripTrailingCommas_node : (node : Node) → (s : List Char) →
    stripTrailingCommas (leftOf .comments node.pieces ++ s) =
      leftOf .all node.pieces ++ stripTrailingCommas s
  | .word w, s => by
    rw [leftOf_word, leftOf_word]
    refine append_of_leaves (fun c hc => ?_) s
    obtain ⟨hquote, -, hcomma⟩ := w.isOrdinary c hc
    exact stripTrailingCommas_cons hquote hcomma
  | .string parts, s => by rw [leftOf_string, leftOf_string, stripTrailingCommas_string]
  | .empty shape gap, s => by
    rw [leftOf_empty, leftOf_empty, stripTrailingCommas_opening, stripTrailingCommas_gap,
      stripTrailingCommas_closing]
  | .full shape items, s => by
    rw [leftOf_full, leftOf_full, stripTrailingCommas_opening, stripTrailingCommas_items items s]

/-- The second pass removes the extra comma behind items, and no other. -/
theorem stripTrailingCommas_items : {shape : Shape} → (items : Items shape) → (s : List Char) →
    stripTrailingCommas (leftOf .comments items.pieces ++ shape.closing :: s) =
      leftOf .all items.pieces ++ shape.closing :: stripTrailingCommas s
  | shape, .last before label value after extra, s => by
    rw [leftOf_last, leftOf_last, stripTrailingCommas_gap, stripTrailingCommas_label,
      stripTrailingCommas_node value, stripTrailingCommas_gap, stripTrailingCommas_extraPieces]
  | shape, .more before label value after rest, s => by
    have hcomma :
        stripTrailingCommas (',' :: (leftOf .comments rest.pieces ++ shape.closing :: s)) =
          ',' :: (leftOf .all rest.pieces ++ shape.closing :: stripTrailingCommas s) := by
      obtain ⟨blanks, c, more, hrest, hblanks, hc⟩ :=
        rest.exists_eq .comments (shape.closing :: s)
      rw [← stripTrailingCommas_items rest s, hrest]
      exact stripTrailingCommas_comma (fun b hb => isBlank_of_mem (hblanks b hb)) hc more
    rw [leftOf_more, leftOf_more, stripTrailingCommas_gap, stripTrailingCommas_label,
      stripTrailingCommas_node value, stripTrailingCommas_gap, hcomma]

end

/-- **The second pass removes the extra commas.** -/
theorem stripTrailingCommas_document (d : Document) :
    stripTrailingCommas (leftOf .comments d.pieces) = d.kept := by
  have hafter := stripTrailingCommas_gap d.after []
  rw [stripTrailingCommas, List.append_nil] at hafter
  rw [Document.kept, d.leftOf_pieces, d.leftOf_pieces, stripTrailingCommas_gap,
    stripTrailingCommas_node, hafter]

/-- **Comments and extra commas are removed, and nothing else.** -/
theorem stripJsonc_document (d : Document) : stripJsonc d.text = d.kept := by
  rw [stripJsonc, stripComments_document, stripTrailingCommas_document]

/-- **Comments and extra commas do not matter.**  From a manifest exactly its comments and extra
commas are removed.  Strict JSON stays as it is.  Manifests with the same tokens say the same. -/
theorem stripping_keeps_tokens (d : Document) :
    stripJsonc d.text = d.kept ∧
      (d.IsStrict → stripJsonc d.text = d.text) ∧
      ∀ d₀ : Document, d₀.node.bare = d.node.bare →
        parse (String.ofList d.text) = parse (String.ofList d₀.text) := by
  refine ⟨stripJsonc_document d, fun hstrict => ?strict, fun d₀ hbare => ?parse⟩
  case strict => rw [stripJsonc_document, d.kept_of_isStrict hstrict]
  case parse =>
    have hread : ∀ d : Document, parse (String.ofList d.text) =
        (d.node.bare.value 0).map ofValue := fun d => by
      rw [parse, String.toList_ofList, stripJsonc_document, readJson_kept, Node.value_bare]
    rw [hread, hread, hbare]

/-- The items of an array: a string of two slashes, and the number one. -/
def slashesAndOne (before : Gap) (extra : Option Gap) : Items .array :=
  let slash : StringPart := .plain ⟨'/', by decide, by decide, by decide⟩
  let one : Whole := ⟨⟨['1'], by decide, by simp [Number.isAsciiDigit]⟩, by decide⟩
  .more [] () (.string [slash, slash]) []
    (.last before () (.word (.number ⟨false, one, none, none⟩)) [] extra)

/-- An array with comments that look like parts of it, and with an extra comma. -/
def arrayWithComments : Document where
  before := []
  node := .full .array
    (slashesAndOne [.block [']', ','] (by decide)] (some [.line [' ', ','] (by decide)]))
  after := []
  unfinished := some ⟨['"'], by decide⟩

/-- The same array as strict JSON. -/
def arrayWithoutComments : Document where
  before := []
  node := .full .array (slashesAndOne [.blank ' ' (by decide)] none)
  after := []
  unfinished := none

/-- The comments are removed with the extra comma, and the string stays. -/
theorem stripping_keeps_tokens_of_array :
    arrayWithComments.text = "[\"//\",/*],*/1,// ,\n]//\"".toList ∧
      stripJsonc arrayWithComments.text = "[\"//\",1\n]".toList ∧
      stripJsonc arrayWithoutComments.text = "[\"//\", 1]".toList ∧
      parse (String.ofList arrayWithComments.text) =
        parse (String.ofList arrayWithoutComments.text) := by
  have hstrict : arrayWithoutComments.IsStrict := ⟨rfl, by decide⟩
  obtain ⟨hkept, -, hparse⟩ := stripping_keeps_tokens arrayWithComments
  obtain ⟨-, hunchanged, -⟩ := stripping_keeps_tokens arrayWithoutComments
  exact ⟨rfl, hkept, hunchanged hstrict, hparse arrayWithoutComments rfl⟩

/-! ## Nesting -/

/-- A text of opening brackets stays as it is. -/
lemma stripJsonc_brackets (count : ℕ) :
    stripJsonc (List.replicate count '[') = List.replicate count '[' := by
  have hcomments (n : ℕ) : stripComments (List.replicate n '[') = List.replicate n '[' := by
    induction n with
    | zero => rw [List.replicate_zero, stripComments]
    | succ n ih => rw [List.replicate_succ, stripComments_cons (by decide) (by decide), ih]
  have hcommas (n : ℕ) : stripTrailingCommas (List.replicate n '[') = List.replicate n '[' := by
    induction n with
    | zero => rw [List.replicate_zero, stripTrailingCommas]
    | succ n ih => rw [List.replicate_succ, stripTrailingCommas_cons (by decide) (by decide), ih]
  rw [stripJsonc, hcomments, hcommas]

/-- A manifest of more opening brackets than may be open at once is nested too deeply. -/
lemma parse_brackets {count : ℕ} (h : Value.jsonNestingLimit < count) :
    parse (String.ofList (List.replicate count '[')) = .error .tooDeep := by
  rw [parse, String.toList_ofList, stripJsonc_brackets, readJson_brackets h]
  rfl

end ProjectCheck.Manifest
