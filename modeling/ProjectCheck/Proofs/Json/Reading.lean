import ProjectCheck.Proofs.Json.Document

/-!
# Reading documents

The reader makes of a document without comments and extra commas what its tokens mean
(`readJson_kept`).  Its fuel is never used up: it is more than twice the length of the text, and of
two steps in a row one takes a character.  So a text that is nested too deeply is refused as such,
even if nothing closes what it opens (`readJson_brackets`).
-/

namespace ProjectCheck.Json

open ProjectCheck.Text ProjectCheck.Number ProjectCheck.Value

/-! ## White space -/

lemma skipJsonBlank_append {blanks : List Char} (h : ∀ b ∈ blanks, b ∈ whiteSpace)
    (s : List Char) : skipJsonBlank (blanks ++ s) = skipJsonBlank s := by
  rw [skipJsonBlank, List.dropWhile_append_of_pos, ← skipJsonBlank]
  intro b hb
  rcases mem_whiteSpace.1 (h b hb) with rfl | rfl | rfl | rfl <;> rfl

lemma skipJsonBlank_cons {c : Char} (h : c ∉ whiteSpace) (s : List Char) :
    skipJsonBlank (c :: s) = c :: s := by
  rw [skipJsonBlank, List.dropWhile_cons_of_neg]
  simpa [mem_whiteSpace, and_assoc] using h

lemma skipJsonBlank_gap (gap : Gap) (s : List Char) :
    skipJsonBlank (gap.left ++ s) = skipJsonBlank s :=
  skipJsonBlank_append (fun _ hb => mem_left hb) s

/-- What opens an item is no white space. -/
lemma OpensItem.notMem {c : Char} (h : OpensItem c) : c ∉ whiteSpace := by
  intro hc
  have hblank := h.1
  rcases mem_whiteSpace.1 hc with rfl | rfl | rfl | rfl <;> exact absurd hblank (by decide)

lemma skipJsonBlank_node (node : Node) (s : List Char) :
    skipJsonBlank (leftOf .all node.pieces ++ s) = leftOf .all node.pieces ++ s := by
  obtain ⟨c, more, hnode, hc⟩ := node.exists_eq_cons .all
  rw [hnode, List.cons_append]
  exact skipJsonBlank_cons hc.notMem _

/-- Behind the last item there is nothing but white space. -/
lemma skipJsonBlank_extra (extra : Option Gap) (s : List Char) :
    skipJsonBlank (leftOf .all (extraPieces extra) ++ s) = skipJsonBlank s := by
  cases extra with
  | none => rfl
  | some gap =>
    rw [extraPieces, leftOf_cons, leftOf_gap]
    exact skipJsonBlank_gap gap s

lemma endsNumber_cons {c : Char} (hdigit : isAsciiDigit c = false)
    (hmark : c ∉ ['.', 'e', 'E']) (s : List Char) : EndsNumber (c :: s) := by
  rintro other hother
  obtain rfl : c = other := Option.some.inj hother
  simpa [hdigit] using hmark

/-- A gap makes no number longer. -/
lemma endsNumber_gap (gap : Gap) {s : List Char} (h : EndsNumber s) :
    EndsNumber (gap.left ++ s) := by
  cases hgap : gap.left with
  | nil => exact h
  | cons c more =>
    have hwhite : c ∈ whiteSpace := mem_left (by rw [hgap]; exact List.mem_cons_self)
    rcases mem_whiteSpace.1 hwhite with rfl | rfl | rfl | rfl <;>
      exact endsNumber_cons (by decide) (by decide) _

lemma endsNumber_extra (extra : Option Gap) {s : List Char} (h : EndsNumber s) :
    EndsNumber (leftOf .all (extraPieces extra) ++ s) := by
  cases extra with
  | none => exact h
  | some gap =>
    rw [extraPieces, leftOf_cons, leftOf_gap]
    exact endsNumber_gap gap h

/-- Between brackets with items, no bracket closes at once. -/
lemma skipJsonBlank_items_ne {shape : Shape} (items : Items shape) (s after : List Char) :
    skipJsonBlank (leftOf .all items.pieces ++ s) ≠ shape.closing :: after := by
  obtain ⟨blanks, c, more, hitems, hblanks, hc⟩ := items.exists_eq .all s
  rw [hitems, skipJsonBlank_append hblanks, skipJsonBlank_cons hc.notMem]
  intro hclose
  obtain ⟨-, harray, hobject⟩ := hc
  cases shape with
  | array => exact harray (List.cons.inj hclose).1
  | object => exact hobject (List.cons.inj hclose).1

/-! ## Steps of the reader -/

section

variable {fuel level : ℕ} {body after : List Char}

lemma takeJson_scalar {c : Char} (hquote : c ≠ '"') (harray : c ≠ '[') (hobject : c ≠ '\x7b')
    (s : List Char) : takeJson (fuel + 1) level (c :: s) = orMalformed (takeScalar? (c :: s)) := by
  rw [takeJson]
  · exact fun _ h => hquote (List.cons.inj h).1
  · exact fun _ h => harray (List.cons.inj h).1
  · exact fun _ h => hobject (List.cons.inj h).1

lemma takeJson_empty {shape : Shape} (h : skipJsonBlank body = shape.closing :: after) :
    takeJson (fuel + 1) level (shape.opening :: body) =
      if level ≥ jsonNestingLimit then .error .tooDeep else .ok (shape.build [], after) := by
  cases shape with
  | array =>
    simp only [Shape.opening, Shape.closing] at h ⊢
    simp only [takeJson, h]
    rfl
  | object =>
    simp only [Shape.opening, Shape.closing] at h ⊢
    simp only [takeJson, h]
    rfl

lemma takeJson_array (h : ∀ after, skipJsonBlank body ≠ ']' :: after) :
    takeJson (fuel + 1) level ('[' :: body) =
      if level ≥ jsonNestingLimit then .error .tooDeep
      else (takeItems fuel (level + 1) (skipJsonBlank body)).map
        fun cut => (.list cut.1, cut.2) := by
  rw [takeJson]
  split
  · rfl
  · split
    next after hafter => exact absurd hafter (h after)
    · rfl

lemma takeJson_object (h : ∀ after, skipJsonBlank body ≠ '\x7d' :: after) :
    takeJson (fuel + 1) level ('\x7b' :: body) =
      if level ≥ jsonNestingLimit then .error .tooDeep
      else (takeMembers fuel (level + 1) (skipJsonBlank body)).map
        fun cut => (.record (Table.ofPairs cut.1), cut.2) := by
  rw [takeJson]
  split
  · rfl
  · split
    next after hafter => exact absurd hafter (h after)
    · rfl

variable {s tail rest : List Char} {item : Except JsonFault Value}

lemma takeItems_last (hvalue : takeJson fuel level s = item.map (·, tail))
    (hclose : skipJsonBlank tail = ']' :: rest) :
    takeItems (fuel + 1) level s = item.map fun v => ([v], rest) := by
  rw [takeItems, hvalue]
  cases item with
  | error why => rfl
  | ok v =>
    simp only [Except.map, hclose, bind, Except.bind]
    rfl

lemma takeItems_more (hvalue : takeJson fuel level s = item.map (·, tail))
    (hcomma : skipJsonBlank tail = ',' :: rest) :
    takeItems (fuel + 1) level s = item.bind fun v =>
      (takeItems fuel level (skipJsonBlank rest)).map fun cut => (v :: cut.1, cut.2) := by
  rw [takeItems, hvalue]
  cases item with
  | error why => rfl
  | ok v =>
    simp only [Except.map, hcomma, bind, Except.bind]
    cases takeItems fuel level (skipJsonBlank rest) <;> rfl

/-- The name of a member is taken with its colon, up to the value. -/
lemma exists_takeString?_label (label : Label .object) (s : List Char) :
    ∃ text afterName beforeValue, leftOf .all label.pieces ++ s = '"' :: text ∧
      takeString? (text.length + 1) text = some (said (Name.parts label), afterName) ∧
      skipJsonBlank afterName = ':' :: beforeValue ∧
      skipJsonBlank beforeValue = skipJsonBlank s := by
  refine ⟨_, _, (Name.afterColon label).left ++ s, leftOf_object .all label s,
    takeString?_inner _ ?fits _, ?colon, skipJsonBlank_gap _ s⟩
  case fits =>
    rw [List.length_append]
    omega
  case colon => rw [skipJsonBlank_gap, skipJsonBlank_cons (by decide)]

lemma takeMembers_last (label : Label .object) (hstart : skipJsonBlank s = s)
    (hvalue : takeJson fuel level s = item.map (·, tail))
    (hclose : skipJsonBlank tail = '\x7d' :: rest) :
    takeMembers (fuel + 1) level (leftOf .all label.pieces ++ s) =
      item.map fun v => ([(label.said, v)], rest) := by
  obtain ⟨text, afterName, beforeValue, hlabel, hname, hcolon, hbefore⟩ :=
    exists_takeString?_label label s
  rw [hlabel, takeMembers, hname]
  simp only [orMalformed, hcolon, hbefore, hstart, hvalue, bind, Except.bind]
  cases item with
  | error why => rfl
  | ok v =>
    simp only [Except.map, hclose]
    rfl

lemma takeMembers_more (label : Label .object) (hstart : skipJsonBlank s = s)
    (hvalue : takeJson fuel level s = item.map (·, tail))
    (hcomma : skipJsonBlank tail = ',' :: rest) :
    takeMembers (fuel + 1) level (leftOf .all label.pieces ++ s) = item.bind fun v =>
      (takeMembers fuel level (skipJsonBlank rest)).map fun cut =>
        ((label.said, v) :: cut.1, cut.2) := by
  obtain ⟨text, afterName, beforeValue, hlabel, hname, hcolon, hbefore⟩ :=
    exists_takeString?_label label s
  rw [hlabel, takeMembers, hname]
  simp only [orMalformed, hcolon, hbefore, hstart, hvalue, bind, Except.bind]
  cases item with
  | error why => rfl
  | ok v =>
    simp only [Except.map, hcomma]
    cases takeMembers fuel level (skipJsonBlank rest) <;> rfl

end

/-! ### What stands around a value -/

section

variable {shape : Shape} (before : Gap) (label : Label shape) (value : Node) (after : Gap)
  (extra : Option Gap) (more : Items shape) (s : List Char)

lemma skipJsonBlank_label :
    skipJsonBlank (leftOf .all label.pieces ++ (leftOf .all value.pieces ++ s)) =
      leftOf .all label.pieces ++ (leftOf .all value.pieces ++ s) := by
  cases shape with
  | array => exact skipJsonBlank_node value s
  | object => exact skipJsonBlank_cons (by decide) _

lemma skipJsonBlank_last :
    skipJsonBlank (leftOf .all (Items.last before label value after extra).pieces ++ s) =
      leftOf .all label.pieces ++
        (leftOf .all value.pieces ++ (after.left ++ (leftOf .all (extraPieces extra) ++ s))) := by
  rw [leftOf_last, skipJsonBlank_gap, skipJsonBlank_label]

lemma skipJsonBlank_more :
    skipJsonBlank (leftOf .all (Items.more before label value after more).pieces ++ s) =
      leftOf .all label.pieces ++
        (leftOf .all value.pieces ++ (after.left ++ ',' :: (leftOf .all more.pieces ++ s))) := by
  rw [leftOf_more, skipJsonBlank_gap, skipJsonBlank_label]

lemma length_full (shape : Shape) (items : Items shape) :
    (leftOf .all (Node.full shape items).pieces).length =
      (leftOf .all items.pieces).length + 2 := by
  simp [Node.pieces, Shape.open, Shape.close, Piece.left, Piece.text]

lemma length_last : (leftOf .all value.pieces).length ≤
    (leftOf .all (Items.last before label value after extra).pieces).length := by
  simp only [Items.pieces, leftOf_append, List.length_append]
  omega

lemma length_more : (leftOf .all value.pieces).length + (leftOf .all more.pieces).length + 1 ≤
    (leftOf .all (Items.more before label value after more).pieces).length := by
  simp only [Items.pieces, leftOf_append, leftOf_cons, List.length_append, Piece.left, Piece.text,
    List.length_singleton]
  omega

variable (shape) in
lemma endsNumber_closing : EndsNumber
    (after.left ++ (leftOf .all (extraPieces extra) ++ shape.closing :: s)) := by
  refine endsNumber_gap after (endsNumber_extra extra (endsNumber_cons ?_ ?_ s)) <;>
    cases shape <;> decide

variable (shape) in
lemma skipJsonBlank_closing : skipJsonBlank
    (after.left ++ (leftOf .all (extraPieces extra) ++ shape.closing :: s)) =
      shape.closing :: s := by
  rw [skipJsonBlank_gap, skipJsonBlank_extra, skipJsonBlank_cons (by cases shape <;> decide)]

lemma endsNumber_comma : EndsNumber (after.left ++ ',' :: s) :=
  endsNumber_gap after (endsNumber_cons (by decide) (by decide) s)

lemma skipJsonBlank_comma : skipJsonBlank (after.left ++ ',' :: s) = ',' :: s := by
  rw [skipJsonBlank_gap, skipJsonBlank_cons (by decide)]

end

/-! ## Over a tree -/

mutual

/-- A value is taken whole, and what follows it is left. -/
theorem takeJson_node : (node : Node) → {fuel : ℕ} → (level : ℕ) → {rest : List Char} →
    (leftOf .all node.pieces).length < fuel → EndsNumber rest →
    takeJson fuel level (leftOf .all node.pieces ++ rest) = (node.value level).map (·, rest)
  | .word w, fuel + 1, level, rest, hfuel, hrest => by
    obtain ⟨c, more, htext, -, hquote, harray, hobject⟩ := w.exists_eq_cons
    have hword := takeScalar?_text w hrest
    rw [htext, List.cons_append] at hword
    rw [leftOf_word, htext, List.cons_append, takeJson_scalar hquote harray hobject, hword,
      Node.value]
    cases w.value? <;> rfl
  | .string parts, fuel + 1, level, rest, hfuel, hrest => by
    have hfits : (inner parts).length < (inner parts ++ '"' :: rest).length + 1 := by
      rw [List.length_append]
      omega
    rw [leftOf_string, takeJson, takeString?_inner parts hfits]
    rfl
  | .empty shape gap, fuel + 1, level, rest, hfuel, hrest => by
    have hskip : skipJsonBlank (gap.left ++ shape.closing :: rest) =
        shape.closing :: rest := by
      rw [skipJsonBlank_gap, skipJsonBlank_cons (by cases shape <;> decide)]
    rw [leftOf_empty, takeJson_empty hskip, Node.value]
    split <;> rfl
  | .full .array items, fuel + 1, level, rest, hfuel, hrest => by
    have hlength := length_full .array items
    have hfits : (leftOf .all items.pieces).length + 1 < fuel := by omega
    rw [leftOf_full]
    refine (takeJson_array (skipJsonBlank_items_ne items _)).trans ?_
    rw [Node.value]
    split
    · rfl
    · rw [show Shape.array.closing = ']' from rfl, takeItems_items items (level + 1) rest hfits]
      cases items.values (level + 1) <;> rfl
  | .full .object items, fuel + 1, level, rest, hfuel, hrest => by
    have hlength := length_full .object items
    have hfits : (leftOf .all items.pieces).length + 1 < fuel := by omega
    rw [leftOf_full]
    refine (takeJson_object (skipJsonBlank_items_ne items _)).trans ?_
    rw [Node.value]
    split
    · rfl
    · rw [show Shape.object.closing = '\x7d' from rfl,
        takeMembers_items items (level + 1) rest hfits]
      cases items.values (level + 1) <;> rfl

/-- The items of an array are taken up to its closing bracket. -/
theorem takeItems_items : (items : Items .array) → {fuel : ℕ} → (level : ℕ) → (rest : List Char) →
    (leftOf .all items.pieces).length + 1 < fuel →
    takeItems fuel level (skipJsonBlank (leftOf .all items.pieces ++ ']' :: rest)) =
      (items.values level).map fun vs => (vs.map Prod.snd, rest)
  | .last before label value after extra, fuel + 1, level, rest, hfuel => by
    have hlength := length_last before label value after extra
    have hfits : (leftOf .all value.pieces).length < fuel := by omega
    have hvalue := takeJson_node value level hfits (endsNumber_closing .array after extra rest)
    rw [skipJsonBlank_last before label value after extra (']' :: rest)]
    refine (takeItems_last hvalue (skipJsonBlank_closing .array after extra rest)).trans ?_
    rw [Items.values]
    cases value.value level <;> rfl
  | .more before label value after more, fuel + 1, level, rest, hfuel => by
    have hlength := length_more before label value after more
    have hfits : (leftOf .all value.pieces).length < fuel := by omega
    have hmoreFits : (leftOf .all more.pieces).length + 1 < fuel := by omega
    have hvalue := takeJson_node value level hfits
      (endsNumber_comma after (leftOf .all more.pieces ++ ']' :: rest))
    have hmore := takeItems_items more level rest hmoreFits
    rw [skipJsonBlank_more before label value after more (']' :: rest)]
    refine (takeItems_more hvalue (skipJsonBlank_comma after _)).trans ?_
    rw [hmore, Items.values]
    cases value.value level with
    | error why => rfl
    | ok v => cases more.values level <;> rfl

/-- The members of an object are taken up to its closing brace. -/
theorem takeMembers_items : (items : Items .object) → {fuel : ℕ} → (level : ℕ) →
    (rest : List Char) → (leftOf .all items.pieces).length + 1 < fuel →
    takeMembers fuel level (skipJsonBlank (leftOf .all items.pieces ++ '\x7d' :: rest)) =
      (items.values level).map (·, rest)
  | .last before label value after extra, fuel + 1, level, rest, hfuel => by
    have hlength := length_last before label value after extra
    have hfits : (leftOf .all value.pieces).length < fuel := by omega
    have hvalue := takeJson_node value level hfits (endsNumber_closing .object after extra rest)
    rw [skipJsonBlank_last before label value after extra ('\x7d' :: rest)]
    refine (takeMembers_last label (skipJsonBlank_node value _) hvalue
      (skipJsonBlank_closing .object after extra rest)).trans ?_
    rw [Items.values]
    cases value.value level <;> rfl
  | .more before label value after more, fuel + 1, level, rest, hfuel => by
    have hlength := length_more before label value after more
    have hfits : (leftOf .all value.pieces).length < fuel := by omega
    have hmoreFits : (leftOf .all more.pieces).length + 1 < fuel := by omega
    have hvalue := takeJson_node value level hfits
      (endsNumber_comma after (leftOf .all more.pieces ++ '\x7d' :: rest))
    have hmore := takeMembers_items more level rest hmoreFits
    rw [skipJsonBlank_more before label value after more ('\x7d' :: rest)]
    refine (takeMembers_more label (skipJsonBlank_node value _) hvalue
      (skipJsonBlank_comma after _)).trans ?_
    rw [hmore, Items.values]
    cases value.value level with
    | error why => rfl
    | ok v => cases more.values level <;> rfl

end

/-- **What is left of a document is read as what its tokens mean.** -/
theorem readJson_kept (d : Document) : readJson d.kept = d.node.value 0 := by
  have hends : EndsNumber (d.after.left) := by
    have hnil : EndsNumber [] := by simp [EndsNumber]
    simpa using endsNumber_gap d.after hnil
  have hafter : skipJsonBlank (d.after.left) = [] := by
    have hgap := skipJsonBlank_gap d.after []
    rwa [List.append_nil] at hgap
  have hskip : skipJsonBlank d.kept = leftOf .all d.node.pieces ++ d.after.left := by
    rw [Document.kept, d.leftOf_pieces, skipJsonBlank_gap, skipJsonBlank_node]
  have hfits : (leftOf .all d.node.pieces).length < 2 * d.kept.length + 1 := by
    rw [Document.kept, d.leftOf_pieces, List.length_append, List.length_append]
    omega
  rw [readJson, hskip, takeJson_node d.node 0 hfits hends]
  cases d.node.value 0 with
  | error why => rfl
  | ok v =>
    simp only [Except.map, bind, Except.bind, hafter]
    rfl

/-! ## Nesting -/

/-- Brackets that open one array in the other are refused at the limit of nesting. -/
lemma takeJson_brackets {count fuel level : ℕ} (hlevel : level ≤ jsonNestingLimit)
    (hcount : jsonNestingLimit < level + count) (hfuel : 2 * count ≤ fuel) :
    takeJson fuel level (List.replicate count '[') = .error .tooDeep := by
  induction count generalizing fuel level with
  | zero => omega
  | succ count ih =>
    obtain ⟨fuel, rfl⟩ : ∃ rest, fuel = rest + 1 + 1 := ⟨fuel - 2, by omega⟩
    have hskip : skipJsonBlank (List.replicate count '[') = List.replicate count '[' := by
      cases count <;> rfl
    have hopen : ∀ after, skipJsonBlank (List.replicate count '[') ≠ ']' :: after := by
      intro after
      rw [hskip]
      cases count <;> simp [List.replicate_succ]
    rw [List.replicate_succ, takeJson_array hopen, hskip]
    split
    · rfl
    · rw [takeItems, ih (by omega) (by omega) (by omega)]
      rfl

/-- A text of more opening brackets than may be open at once is nested too deeply. -/
theorem readJson_brackets {count : ℕ} (h : jsonNestingLimit < count) :
    readJson (List.replicate count '[') = .error .tooDeep := by
  have hskip : skipJsonBlank (List.replicate count '[') = List.replicate count '[' := by
    cases count <;> rfl
  rw [readJson, hskip, takeJson_brackets (Nat.zero_le _) (by omega) (by simp)]
  rfl

end ProjectCheck.Json
