import ProjectCheck.CompilerOutput
import ProjectCheck.Proofs.Number.Numerals
import ProjectCheck.Proofs.Text.Occurrence
import ProjectCheck.Proofs.Text.Reading

/-!
# Locations, head lines and summaries

What the readers of single lines make of them, in terms of the texts that stand in a line.  A line
counts as one with a location exactly if a location stands behind its first character
(`hasLocation_iff`), and as a summary exactly if it begins with a count of errors (`isSummary_iff`).

A head line is a file and a statement behind it (`IsHeadLine`): a location, the word `error`, a code
and a message.  If a line can be cut in several ways, its file is the shortest.

A printed head line is read back, whatever parentheses, commas and colons its file holds
(`head?_append`).  A location that is read earlier would begin in the file and go on in the printed
location; it cannot, since a location has no parenthesis behind its first character
(`takeLocation?_append_paren`).
-/

namespace ProjectCheck.CompilerOutput

open ProjectCheck.Number ProjectCheck.Text

/-! ## Digits -/

lemma takeDigits?_append {digits s : List Char} (h : IsNumeral digits)
    (hend : ∀ c ∈ s.head?, isDecimal c = false) : takeDigits? (digits ++ s) = some (digits, s) := by
  rw [takeDigits?, takeWhile_append_of_stops h.2 hend, dropWhile_append_of_stops h.2 hend]
  cases digits with
  | nil => exact absurd rfl h.1
  | cons d digits => rfl

lemma takeDigits?_eq_some {s digits rest : List Char} (h : takeDigits? s = some (digits, rest)) :
    IsNumeral digits ∧ s = digits ++ rest := by
  rw [takeDigits?] at h
  split at h
  · contradiction
  · rename_i hne
    simp only [Option.some.injEq, Prod.mk.injEq] at h
    obtain ⟨rfl, rfl⟩ := h
    exact ⟨⟨hne, fun c hc => List.mem_takeWhile_imp hc⟩, List.takeWhile_append_dropWhile.symm⟩

/-! ## Locations -/

/-- A location as it is printed, as in `(12,5):`. -/
def location (line column : List Char) : List Char :=
  '(' :: (line ++ ',' :: (column ++ [')', ':']))

/-- A location stands somewhere in a text. -/
def HoldsLocation (s : List Char) : Prop :=
  ∃ line column, IsNumeral line ∧ IsNumeral column ∧ location line column <:+: s

lemma HoldsLocation.of_infix {s t : List Char} (h : HoldsLocation s) (hst : s <:+: t) :
    HoldsLocation t := by
  obtain ⟨line, column, hline, hcolumn, hin⟩ := h
  exact ⟨line, column, hline, hcolumn, hin.trans hst⟩

variable {line column : List Char}

lemma location_append (line column s : List Char) : location line column ++ s =
    '(' :: (line ++ ',' :: (column ++ ')' :: ':' :: s)) := by
  simp [location]

/-- No parenthesis opens inside a location. -/
lemma paren_notMem_tail_location (hline : IsNumeral line) (hcolumn : IsNumeral column) :
    '(' ∉ (location line column).tail := by
  have hdigits : ∀ {digits : List Char}, IsNumeral digits → '(' ∉ digits := by
    intro digits h hmem
    exact absurd (h.2 _ hmem) (by decide)
  simp [location, hdigits hline, hdigits hcolumn]

lemma takeLocation?_append (hline : IsNumeral line) (hcolumn : IsNumeral column) (s : List Char) :
    takeLocation? (location line column ++ s) = some ((line, column), s) := by
  have hfirst := takeDigits?_append hline (s := ',' :: (column ++ ')' :: ':' :: s))
    (by simp; decide)
  have hsecond := takeDigits?_append hcolumn (s := ')' :: ':' :: s) (by simp; decide)
  simp [location_append, takeLocation?, afterPrefix?, hfirst, hsecond]

lemma takeLocation?_eq_some {s rest : List Char}
    (h : takeLocation? s = some ((line, column), rest)) :
    IsNumeral line ∧ IsNumeral column ∧ s = location line column ++ rest := by
  simp only [takeLocation?, Option.bind_eq_bind, Option.bind_eq_some_iff] at h
  obtain ⟨inside, hinside, ⟨digits, afterLine⟩, hline, between, hbetween, ⟨digits', afterColumn⟩,
    hcolumn, behind, hbehind, hresult⟩ := h
  simp only [Option.pure_def, Option.some.injEq, Prod.mk.injEq] at hresult
  obtain ⟨⟨rfl, rfl⟩, rfl⟩ := hresult
  dsimp only at hbetween hbehind
  have hfirst := takeDigits?_eq_some hline
  have hsecond := takeDigits?_eq_some hcolumn
  refine ⟨hfirst.1, hsecond.1, ?_⟩
  rw [afterPrefix?_eq_some hinside, hfirst.2, afterPrefix?_eq_some hbetween, hsecond.2,
    afterPrefix?_eq_some hbehind]
  simp [location]

/-- No location begins in a text that holds none and goes on behind a parenthesis that opens. -/
lemma takeLocation?_append_paren {before : List Char} (hne : before ≠ [])
    (hfree : ¬ HoldsLocation before) (s : List Char) :
    takeLocation? (before ++ '(' :: s) = none := by
  rw [Option.eq_none_iff_forall_ne_some]
  rintro ⟨⟨line, column⟩, rest⟩ hread
  obtain ⟨hline, hcolumn, htext⟩ := takeLocation?_eq_some hread
  have hbegins : location line column <+: before ++ '(' :: s := ⟨rest, htext.symm⟩
  have hin := prefix_of_prefix_append_cons hne (paren_notMem_tail_location hline hcolumn) hbegins
  exact hfree ⟨line, column, hline, hcolumn, hin.isInfix⟩

/-! ## The first place where a reader succeeds -/

section

variable {α : Type} {reader : List Char → Option α}

lemma afterSome?_append {before s : List Char} {content : α} (hne : before ≠ [])
    (hread : reader s = some content)
    (hfirst : ∀ x y, before = x ++ y → x ≠ [] → y ≠ [] → reader (y ++ s) = none) :
    afterSome? reader (before ++ s) = some (before, content) := by
  induction before with
  | nil => contradiction
  | cons c before ih =>
    cases before with
    | nil => simp [afterSome?, hread]
    | cons d before =>
      have hnone : reader (d :: before ++ s) = none := hfirst [c] _ rfl (by simp) (by simp)
      rw [List.cons_append, afterSome?, hnone, ih (by simp)]
      · rfl
      · intro x y hxy _ hy
        exact hfirst (c :: x) y (by rw [hxy, List.cons_append]) (by simp) hy

lemma afterSome?_eq_some {s before : List Char} {content : α}
    (h : afterSome? reader s = some (before, content)) :
    ∃ rest, s = before ++ rest ∧ before ≠ [] ∧ reader rest = some content := by
  induction s generalizing before with
  | nil => simp [afterSome?] at h
  | cons c s ih =>
    rw [afterSome?] at h
    split at h
    · rename_i found hfound
      simp only [Option.some.injEq, Prod.mk.injEq] at h
      obtain ⟨rfl, rfl⟩ := h
      exact ⟨s, rfl, by simp, hfound⟩
    · obtain ⟨cut, hcut, hpair⟩ := Option.map_eq_some_iff.1 h
      simp only [Prod.mk.injEq] at hpair
      obtain ⟨rfl, rfl⟩ := hpair
      obtain ⟨rest, rfl, -, hread⟩ := ih hcut
      exact ⟨rest, rfl, by simp, hread⟩

/-- The reader fails at every place between the first character and the cut. -/
lemma eq_none_of_afterSome? {x y rest : List Char} {content : α}
    (h : afterSome? reader (x ++ (y ++ rest)) = some (x ++ y, content)) (hx : x ≠ [])
    (hy : y ≠ []) : reader (y ++ rest) = none := by
  induction x with
  | nil => contradiction
  | cons c x ih =>
    rw [List.cons_append, afterSome?] at h
    split at h
    · simp [hy] at h
    · rename_i hnone
      rcases eq_or_ne x [] with rfl | hx
      · exact hnone
      · obtain ⟨cut, hcut, hpair⟩ := Option.map_eq_some_iff.1 h
        simp only [List.cons_append, Prod.mk.injEq, List.cons.injEq, true_and] at hpair
        obtain ⟨hbefore, rfl⟩ := hpair
        exact ih (hbefore ▸ hcut) hx

lemma isSome_afterSome?_iff {s : List Char} : (afterSome? reader s).isSome = true ↔
    ∃ before rest, s = before ++ rest ∧ before ≠ [] ∧ (reader rest).isSome = true := by
  constructor
  · intro h
    obtain ⟨⟨before, content⟩, hfound⟩ := Option.isSome_iff_exists.1 h
    obtain ⟨rest, hs, hne, hread⟩ := afterSome?_eq_some hfound
    exact ⟨before, rest, hs, hne, by simp [hread]⟩
  · rintro ⟨before, rest, rfl, hne, hread⟩
    induction before with
    | nil => contradiction
    | cons c before ih =>
      rw [List.cons_append, afterSome?]
      cases hfirst : reader (before ++ rest) with
      | some found => rfl
      | none =>
        have hbefore : before ≠ [] := by
          rintro rfl
          simp [show reader rest = none from hfirst] at hread
        simpa using ih hbefore

end

/-! ## Lines with a location -/

/-- A line counts as one with a location if a location stands behind its first character. -/
theorem hasLocation_iff {s : List Char} : hasLocation s = true ↔ HoldsLocation s.tail := by
  rw [hasLocation, isSome_afterSome?_iff]
  constructor
  · rintro ⟨before, rest, rfl, hne, hread⟩
    obtain ⟨⟨⟨line, column⟩, behind⟩, hlocation⟩ := Option.isSome_iff_exists.1 hread
    obtain ⟨hline, hcolumn, rfl⟩ := takeLocation?_eq_some hlocation
    refine ⟨line, column, hline, hcolumn, before.tail, behind, ?_⟩
    rw [List.tail_append_of_ne_nil hne, List.append_assoc]
  · rintro ⟨line, column, hline, hcolumn, before, behind, htail⟩
    cases s with
    | nil => simp [location] at htail
    | cons c s =>
      have hs : s = before ++ (location line column ++ behind) := by simpa using htail.symm
      refine ⟨c :: before, location line column ++ behind, by rw [hs, List.cons_append], by simp, ?_⟩
      rw [takeLocation?_append hline hcolumn]
      rfl

lemma holdsLocation_iff {s : List Char} : HoldsLocation s ↔ hasLocation (' ' :: s) = true := by
  rw [hasLocation_iff, List.tail_cons]

instance (s : List Char) : Decidable (HoldsLocation s) :=
  decidable_of_iff _ holdsLocation_iff.symm

lemma hasLocation_eq_false_iff {s : List Char} :
    hasLocation s = false ↔ ¬ HoldsLocation s.tail := by
  rw [← hasLocation_iff, Bool.not_eq_true]

lemma hasLocation_eq_false {s : List Char} (h : ¬ HoldsLocation s) : hasLocation s = false := by
  rw [hasLocation_eq_false_iff]
  exact fun htail => h (htail.of_infix (List.tail_suffix s).isInfix)

/-! ## Head lines -/

/-- Blanks between two words. -/
def IsGap (s : List Char) : Prop :=
  AllBlank s ∧ s ≠ []

/-- What a head line says behind its file. -/
def IsStatement (s : List Char) (head : Head) : Prop :=
  IsNumeral head.line ∧ IsNumeral head.column ∧
    head.message ≠ [] ∧ (∀ c ∈ head.message.head?, isBlank c = false) ∧
    ∃ digits afterLocation afterWord afterCode,
      IsNumeral digits ∧ head.code = 'T' :: 'S' :: digits ∧
      IsGap afterLocation ∧ IsGap afterWord ∧ IsGap afterCode ∧
      s = location head.line head.column ++ (afterLocation ++ ("error".toList ++
        (afterWord ++ (head.code ++ ':' :: (afterCode ++ head.message)))))

/-- A line is the head line of a diagnostic: the shortest file that has a statement behind it, and
this statement. -/
def IsHeadLine (s : List Char) (head : Head) : Prop :=
  head.file ≠ [] ∧ ∃ rest, s = head.file ++ rest ∧ IsStatement rest head ∧
    ∀ x y other, head.file = x ++ y → x ≠ [] → y ≠ [] → ¬ IsStatement (y ++ rest) other

/-- A statement begins with its location. -/
lemma IsStatement.exists_location {s : List Char} {head : Head} (h : IsStatement s head) :
    IsNumeral head.line ∧ IsNumeral head.column ∧
      ∃ behind, s = location head.line head.column ++ behind := by
  obtain ⟨hline, hcolumn, -, -, _, _, _, _, -, -, -, -, -, hs⟩ := h
  exact ⟨hline, hcolumn, _, hs⟩

lemma dropBlanks?_eq_some_iff {s rest : List Char} :
    dropBlanks? s = some rest ↔
      ∃ gap, IsGap gap ∧ s = gap ++ rest ∧ ∀ c ∈ rest.head?, isBlank c = false := by
  constructor
  · intro h
    obtain ⟨gap, hblank, hne, hs⟩ := dropBlanks?_eq_some h
    exact ⟨gap, ⟨hblank, hne⟩, hs, isBlank_of_dropBlanks? h⟩
  · rintro ⟨gap, ⟨hblank, hne⟩, rfl, hrest⟩
    rw [dropBlanks?_append hblank hne]
    cases rest with
    | nil => rfl
    | cons c rest => rw [trimStart_cons (hrest c rfl)]

/-- A statement is read as what it says. -/
lemma takeHead?_of_isStatement {s : List Char} {head : Head} (h : IsStatement s head) :
    takeHead? s = some { head with file := [] } := by
  obtain ⟨file, line, column, code, message⟩ := head
  obtain ⟨hline, hcolumn, hmessage, hstart, digits, afterLocation, afterWord, afterCode, hdigits,
    hcode, hlocation, hword, hgap, rfl⟩ := h
  obtain rfl : code = 'T' :: 'S' :: digits := hcode
  have hfirst : ∀ t, dropBlanks? (afterLocation ++ ("error".toList ++ t)) =
      some ("error".toList ++ t) := fun t =>
    dropBlanks?_eq_some_iff.2 ⟨_, hlocation, rfl, by simp; decide⟩
  have hsecond : ∀ t, dropBlanks? (afterWord ++ 'T' :: 'S' :: t) =
      some ('T' :: 'S' :: t) := fun t =>
    dropBlanks?_eq_some_iff.2 ⟨_, hword, rfl, by simp; decide⟩
  have hthird : dropBlanks? (afterCode ++ message) = some message :=
    dropBlanks?_eq_some_iff.2 ⟨_, hgap, rfl, hstart⟩
  have hnumber := takeDigits?_append hdigits (s := ':' :: (afterCode ++ message)) (by simp; decide)
  have hmark : ∀ t, afterPrefix? ['T', 'S'] ('T' :: 'S' :: t) = some t := fun _ => rfl
  have hcolon : ∀ t, afterPrefix? [':'] (':' :: t) = some t := fun _ => rfl
  simp only [takeHead?, takeLocation?_append hline hcolumn, Option.bind_eq_bind, Option.bind_some,
    hfirst, afterPrefix?_append, List.cons_append, hsecond, hmark, hnumber, hcolon, hthird,
    List.isEmpty_iff, hmessage, if_false]
  rfl

/-- What is read is a statement. -/
lemma isStatement_of_takeHead? {s : List Char} {head : Head} (h : takeHead? s = some head) :
    head.file = [] ∧ IsStatement s head := by
  simp only [takeHead?, Option.bind_eq_bind, Option.bind_eq_some_iff] at h
  obtain ⟨⟨⟨line, column⟩, behind⟩, hlocation, fromWord, hfromWord, afterWord, herror, fromMark,
    hfromMark, afterMark, hmark, ⟨digits, afterDigits⟩, hdigits, fromGap, hcolon, message, hmessage,
    h⟩ := h
  obtain ⟨hline, hcolumn, rfl⟩ := takeLocation?_eq_some hlocation
  obtain ⟨gapOfWord, hgapOfWord, rfl, -⟩ := dropBlanks?_eq_some_iff.1 hfromWord
  obtain ⟨gapOfMark, hgapOfMark, rfl, -⟩ := dropBlanks?_eq_some_iff.1 hfromMark
  obtain ⟨gapOfMessage, hgapOfMessage, rfl, hstart⟩ := dropBlanks?_eq_some_iff.1 hmessage
  obtain ⟨hnumeral, rfl⟩ := takeDigits?_eq_some hdigits
  obtain rfl := afterPrefix?_eq_some herror
  obtain rfl := afterPrefix?_eq_some hmark
  obtain rfl := afterPrefix?_eq_some hcolon
  split at h
  · contradiction
  · rename_i hne
    obtain rfl := Option.some.inj h
    refine ⟨rfl, hline, hcolumn, by simpa using hne, hstart, digits, gapOfWord, gapOfMark,
      gapOfMessage, hnumeral, rfl, hgapOfWord, hgapOfMark, hgapOfMessage, ?_⟩
    simp

lemma takeHead?_eq_none_iff {s : List Char} :
    takeHead? s = none ↔ ∀ head, ¬ IsStatement s head := by
  rw [Option.eq_none_iff_forall_ne_some]
  constructor
  · exact fun h head hstatement => h _ (takeHead?_of_isStatement hstatement)
  · exact fun h head hread => h head (isStatement_of_takeHead? hread).2

/-- **Head lines are those that are read.** -/
theorem head?_eq_some_iff {s : List Char} {head : Head} :
    head? s = some head ↔ IsHeadLine s head := by
  constructor
  · intro h
    obtain ⟨⟨file, found⟩, hfound, rfl⟩ := Option.map_eq_some_iff.1 h
    obtain ⟨rest, rfl, hne, hread⟩ := afterSome?_eq_some hfound
    refine ⟨hne, rest, rfl, (isStatement_of_takeHead? hread).2, ?_⟩
    rintro x y other (rfl : file = x ++ y) hx hy
    rw [List.append_assoc] at hfound
    exact takeHead?_eq_none_iff.1 (eq_none_of_afterSome? hfound hx hy) other
  · rintro ⟨hne, rest, rfl, hstatement, hfirst⟩
    rw [head?, afterSome?_append hne (takeHead?_of_isStatement hstatement)]
    · rfl
    · exact fun x y hxy hx hy => takeHead?_eq_none_iff.2 fun other => hfirst x y other hxy hx hy

/-- A head line has a location, and its numbers are those of a location in it. -/
lemma location_of_head? {s : List Char} {head : Head} (h : head? s = some head) :
    IsNumeral head.line ∧ IsNumeral head.column ∧ location head.line head.column <:+: s.tail := by
  obtain ⟨hne, rest, rfl, hstatement, -⟩ := head?_eq_some_iff.1 h
  obtain ⟨hline, hcolumn, behind, rfl⟩ := hstatement.exists_location
  refine ⟨hline, hcolumn, head.file.tail, behind, ?_⟩
  rw [List.tail_append_of_ne_nil hne, List.append_assoc]

lemma hasLocation_of_head? {s : List Char} {head : Head} (h : head? s = some head) :
    hasLocation s = true :=
  hasLocation_iff.2 ⟨_, _, location_of_head? h⟩

lemma head?_eq_none {s : List Char} (h : hasLocation s = false) : head? s = none := by
  cases hs : head? s with
  | none => rfl
  | some head =>
    rw [hasLocation_of_head? hs] at h
    contradiction

/-! ### Printed head lines -/

/-- What a head line says behind its location. -/
def headText (digits message : List Char) : List Char :=
  " error TS".toList ++ (digits ++ (": ".toList ++ message))

lemma isStatement_headText {head : Head} {digits : List Char} (hline : IsNumeral head.line)
    (hcolumn : IsNumeral head.column) (hdigits : IsNumeral digits)
    (hcode : head.code = 'T' :: 'S' :: digits) (hmessage : head.message ≠ [])
    (htrimmed : trim head.message = head.message) :
    IsStatement (location head.line head.column ++ headText digits head.message) head := by
  have hgap : IsGap [' '] := ⟨allBlank_singleton (by decide), by simp⟩
  have hdrop : dropBlanks? ([' '] ++ head.message) = some head.message := by
    rw [dropBlanks?_append hgap.1 hgap.2, trimStart_eq_self htrimmed]
  refine ⟨hline, hcolumn, hmessage, isBlank_of_dropBlanks? hdrop, digits, [' '], [' '], [' '],
    hdigits, hcode, hgap, hgap, hgap, ?_⟩
  rw [hcode]
  rfl

/-- A printed head line is read back. -/
theorem head?_append {file line column digits message : List Char} (hne : file ≠ [])
    (hfree : ¬ HoldsLocation file) (hline : IsNumeral line) (hcolumn : IsNumeral column)
    (hdigits : IsNumeral digits) (hmessage : message ≠ []) (htrimmed : trim message = message) :
    head? (file ++ (location line column ++ headText digits message)) =
      some { file, line, column, code := 'T' :: 'S' :: digits, message } := by
  refine head?_eq_some_iff.2
    ⟨hne, _, rfl, isStatement_headText hline hcolumn hdigits rfl hmessage htrimmed, ?_⟩
  rintro x y other (rfl : file = x ++ y) _ hy hearlier
  obtain ⟨hline', hcolumn', behind, htext⟩ := hearlier.exists_location
  -- An earlier location would begin in the file, which holds none.
  have hfile : ¬ HoldsLocation y := fun hy => hfree (hy.of_infix ⟨x, [], by simp⟩)
  have hread := takeLocation?_append_paren hy hfile
    (line ++ ',' :: (column ++ ')' :: ':' :: headText digits message))
  rw [← location_append, htext, takeLocation?_append hline' hcolumn'] at hread
  contradiction

/-! ## Summaries -/

/-- A line that begins with a count of errors, as in `Found 3 errors.` -/
def IsSummary (s : List Char) : Prop :=
  ∃ count word rest, IsNumeral count ∧ (word = " error".toList ∨ word = " errors".toList) ∧
    s = "Found ".toList ++ (count ++ (word ++ rest)) ∧ endsWord rest = true

/-- A text that does not go on with a word character has no letter to drop. -/
lemma dropLead_of_endsWord {s : List Char} (h : endsWord s = true) : dropLead ['s'] s = s := by
  cases s with
  | nil => rfl
  | cons c s =>
    have hc : 's' ≠ c := by
      rintro rfl
      exact absurd h (by simp [endsWord, isWordSide]; decide)
    simp [dropLead, afterPrefix?, hc]

theorem isSummary_iff {s : List Char} : isSummary s = true ↔ IsSummary s := by
  constructor
  · intro h
    simp only [isSummary, Option.bind_eq_bind, Option.getD_eq_iff, Option.bind_eq_some_iff,
      Bool.false_eq_true, and_false, or_false] at h
    obtain ⟨_, hfound, ⟨count, _⟩, hdigits, rest, herror, hend⟩ := h
    have hend := Option.some.inj hend
    dsimp only at herror
    obtain ⟨hcount, rfl⟩ := takeDigits?_eq_some hdigits
    rw [afterPrefix?_eq_some hfound, afterPrefix?_eq_some herror]
    cases hs : afterPrefix? ['s'] rest with
    | none =>
      rw [dropLead, hs] at hend
      exact ⟨count, _, rest, hcount, Or.inl rfl, by simp, hend⟩
    | some behind =>
      rw [dropLead, hs] at hend
      rw [afterPrefix?_eq_some hs]
      exact ⟨count, _, behind, hcount, Or.inr rfl, by simp, hend⟩
  · rintro ⟨count, word, rest, hcount, hword, rfl, hend⟩
    obtain ⟨behind, hbehind, hdrop⟩ :
        ∃ behind, word ++ rest = " error".toList ++ behind ∧ dropLead ['s'] behind = rest := by
      rcases hword with rfl | rfl
      · exact ⟨rest, rfl, dropLead_of_endsWord hend⟩
      · exact ⟨'s' :: rest, rfl, rfl⟩
    have hdigits := takeDigits?_append hcount (s := " error".toList ++ behind) (by simp; decide)
    simp only [isSummary, hbehind, afterPrefix?_append, hdigits, hdrop, hend, Option.bind_eq_bind,
      Option.bind_some]
    rfl

instance (s : List Char) : Decidable (IsSummary s) :=
  decidable_of_iff _ isSummary_iff

end ProjectCheck.CompilerOutput
