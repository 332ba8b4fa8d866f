import Mathlib.Data.String.Basic
import ProjectCheck.Proofs.Text.Reading
import ProjectCheck.Shell.Token
import ProjectCheck.Shell.Word

/-!
# Words that cannot be broken out of

A text written as a word reads as that one word, whatever stands around it: `reads_quote` says which
glyphs the word has, and `literal?_spelling` that their characters are the text.

The pieces of a command are read apart and put together again.  `Spells text w` says that `text` goes
on with the word in progress by the glyphs `w`, in every context, so spelled texts may be written one
behind the other.  `Reads text ts` says that `text`, read where no word has begun, gives the tokens
`ts` and leaves the last of them open as a word.  A joint ends that word, so a text that reads as
tokens may be followed by a joint and another such text (`Reads.join`), and so on for a whole script.
-/

namespace ProjectCheck.Shell

open ProjectCheck.Text

/-! ## Characters of words -/

/-- The characters that mean something in a word that is not quoted, or where one may begin. -/
def marks : List Char :=
  " \t\n;&|<>()".toList ++ ['#', '\'', '"', '\\', '$', backquote]

/-- Whether a character stands for itself in a word, and cannot begin a comment. -/
def isPlain (c : Char) : Bool :=
  !marks.contains c

/-- The characters that mean something between double quotes. -/
def marksInQuotes : List Char :=
  ['"', '\\', '$', backquote]

/-- Whether a character stands for itself between double quotes. -/
def isPlainInQuotes (c : Char) : Bool :=
  !marksInQuotes.contains c

lemma isPlain_of_isHarmless {c : Char} (h : isHarmless c = true) : isPlain c = true := by
  have hmarks : marks.all (!isHarmless ·) = true := by decide
  rw [isPlain, Bool.not_eq_true', Bool.eq_false_iff, Ne, List.contains_iff_mem]
  intro hmem
  simpa [h] using List.all_eq_true.mp hmarks c hmem

lemma endsWord_of_isPlain {c : Char} (h : isPlain c = true) : endsWord c = false := by
  simp only [isPlain, Bool.not_eq_true', Bool.eq_false_iff, Ne, List.contains_iff_mem] at h
  rw [endsWord, Bool.eq_false_iff, Ne, List.contains_iff_mem]
  exact fun hmem => h (List.mem_append_left _ hmem)

/-! ## One part of a word -/

lemma operator?_eq_none {c : Char} (h : endsWord c = false) (rest : List Char) :
    operator? c rest = none := by
  unfold operator?
  split <;> first | rfl | exact absurd h (by decide)

/-- A part of a word adds its glyphs to the word in progress. -/
lemma tokensAfter_of_part {c : Char} {rest : List Char} {glyphs : Word} {n : Nat}
    (hinside : endsWord c = false) (hcomment : c ≠ '#')
    (hjoined : ¬ (c = '\\' ∧ rest.head? = some '\n')) (hpart : part c rest = .ok (glyphs, n))
    (word : Option Word) :
    tokensAfter word (c :: rest) =
      tokensAfter (some (glyphs.reverse ++ word.getD [])) (rest.drop n) := by
  have hblank : (c == ' ' || c == '\t') = false := by
    rw [Bool.eq_false_iff]
    intro hb
    rcases Bool.or_eq_true _ _ ▸ hb with hb | hb <;>
      exact absurd hinside (by rw [eq_of_beq hb]; decide)
  have hjoined' : (c == '\\' && rest.head? == some '\n') = false := by
    simpa [Bool.eq_false_iff] using hjoined
  rw [tokensAfter]
  simp [hblank, hcomment, hjoined', operator?_eq_none hinside, hpart]

/-- A blank ends the word in progress. -/
lemma tokensAfter_blank (word : Option Word) (s : List Char) :
    tokensAfter word (' ' :: s) = closeWord word (tokensAfter none s) := by
  rw [tokensAfter]
  rfl

/-- An operator that is no redirection ends the word in progress. -/
lemma tokensAfter_of_operator {c : Char} {rest : List Char} {o : Operator} {n : Nat}
    (hoperator : operator? c rest = some (o, n))
    (hother : ∀ stream direction, o ≠ .redirect stream direction) (word : Option Word) :
    tokensAfter word (c :: rest) = closeWord word (.operator o :: tokensAfter none (rest.drop n)) := by
  have hne {d : Char} (hd : operator? d rest = none) : c ≠ d := by
    rintro rfl
    rw [hd] at hoperator
    cases hoperator
  have hblank : (c == ' ' || c == '\t') = false := by
    rw [Bool.or_eq_false_iff]
    exact ⟨beq_false_of_ne (hne rfl), beq_false_of_ne (hne rfl)⟩
  rw [tokensAfter]
  simp only [hblank, beq_false_of_ne (hne rfl : c ≠ '#'), beq_false_of_ne (hne rfl : c ≠ '\\'),
    Bool.false_and, Bool.false_eq_true, if_false, hoperator]
  cases o with
  | redirect stream direction => exact absurd rfl (hother stream direction)
  | _ => rfl

/-- A text goes on with a word by some glyphs, whatever stands before it and behind it. -/
def Spells (text : List Char) (glyphs : Word) : Prop :=
  ∀ (word : Option Word) (s : List Char),
    tokensAfter word (text ++ s) = tokensAfter (some (glyphs.reverse ++ word.getD [])) s

lemma Spells.append {text more : List Char} {glyphs others : Word} (h : Spells text glyphs)
    (hmore : Spells more others) : Spells (text ++ more) (glyphs ++ others) := by
  intro word s
  rw [List.append_assoc, h, hmore]
  simp

lemma spells_plain {c : Char} (hc : isPlain c = true) : Spells [c] [.bare c] := by
  have hmarks : c ∉ ['#', '\'', '"', '\\', '$', backquote] := by
    simp only [isPlain, Bool.not_eq_true', Bool.eq_false_iff, Ne, List.contains_iff_mem] at hc
    exact fun hmem => hc (List.mem_append_right _ hmem)
  simp only [List.mem_cons, List.not_mem_nil, or_false, not_or] at hmarks
  obtain ⟨hhash, hsingle, hdouble, hslash, hdollar, hback⟩ := hmarks
  intro word s
  have hpart : part c s = .ok ([.bare c], 0) := by
    simp [part, hsingle, hdouble, hslash, hdollar, hback]
  rw [List.singleton_append,
    tokensAfter_of_part (endsWord_of_isPlain hc) hhash (by simp [hslash]) hpart]
  simp

lemma spells_ofBare {s : List Char} (hne : s ≠ []) (hplain : ∀ c ∈ s, isPlain c = true) :
    Spells s (Word.ofBare s) := by
  induction s with
  | nil => exact absurd rfl hne
  | cons c rest ih =>
    have hfirst := spells_plain (hplain c (by simp))
    rcases eq_or_ne rest [] with rfl | hrest
    · exact hfirst
    · exact hfirst.append (ih hrest fun d hd => hplain d (by simp [hd]))

lemma spells_singleQuotes {inside : List Char} (h : '\'' ∉ inside) :
    Spells ('\'' :: (inside ++ ['\''])) (.quote :: inside.map .quoted) := by
  intro word s
  have hinside : ((inside ++ ['\'']) ++ s).takeWhile (· != '\'') = inside := by
    rw [List.append_assoc]
    apply takeWhile_append_of_stops
    · intro c hc
      simpa using ne_of_mem_of_not_mem hc h
    · simp
  have hpart : part '\'' ((inside ++ ['\'']) ++ s) =
      .ok (.quote :: inside.map .quoted, inside.length + 1) := by
    simp only [part, hinside]
    simp
  rw [List.cons_append, tokensAfter_of_part (by decide) (by decide) (by simp) hpart]
  congr 1
  simp

lemma quotedGlyphs_append {inside : List Char} (h : ∀ c ∈ inside, isPlainInQuotes c = true)
    (s : List Char) :
    quotedGlyphs .string (inside ++ '"' :: s) = .ok (inside.map .quoted, inside.length + 1) := by
  induction inside with
  | nil => simp [quotedGlyphs]
  | cons c rest ih =>
    have hc := h c (by simp)
    simp only [isPlainInQuotes, marksInQuotes, Bool.not_eq_true', Bool.eq_false_iff, Ne,
      List.contains_iff_mem, List.mem_cons, List.not_mem_nil, or_false, not_or] at hc
    obtain ⟨hdouble, hslash, hdollar, hback⟩ := hc
    rw [List.cons_append, quotedGlyphs]
    simp [hdouble, hslash, hdollar, hback, ih fun d hd => h d (by simp [hd])]

lemma spells_doubleQuotes {inside : List Char} (h : ∀ c ∈ inside, isPlainInQuotes c = true) :
    Spells ('"' :: (inside ++ ['"'])) (.quote :: inside.map .quoted) := by
  intro word s
  have hpart : part '"' ((inside ++ ['"']) ++ s) =
      .ok (.quote :: inside.map .quoted, inside.length + 1) := by
    simp [part, quotedGlyphs_append h, Except.map]
  rw [List.cons_append, tokensAfter_of_part (by decide) (by decide) (by simp) hpart]
  congr 1
  simp

lemma spells_escaped {c : Char} (h : c ≠ '\n') : Spells ['\\', c] [.quoted c] := by
  intro word s
  have hpart : part '\\' (c :: s) = .ok ([.quoted c], 1) := by simp [part]
  rw [List.cons_append, List.singleton_append,
    tokensAfter_of_part (by decide) (by decide) (by simp [h]) hpart]
  simp

/-! ## Texts written as words -/

/-- The glyphs of a character of a quoted text.  A single quote stands in quotes of its own, between
two texts in single quotes. -/
def glyphsInside (c : Char) : Word :=
  if c == '\'' then [.quote, .quoted c, .quote] else [.quoted c]

/-- The glyphs of a text that is written as a word. -/
def spelling (s : List Char) : Word :=
  if s.isEmpty then [.quote] else if s.all isHarmless then Word.ofBare s
  else .quote :: s.flatMap glyphsInside

lemma quote_of_isHarmless {text : String} (hne : text.toList ≠ [])
    (h : text.toList.all isHarmless = true) : quote text = text := by
  rw [quote, word, if_neg (by simpa using hne), if_pos h, String.ofList_toList]

/-- The quotes are closed and opened again at each single quote, so the induction keeps apart what
was quoted since they were last opened. -/
lemma spells_singleQuoted_behind {passed : List Char} (h : '\'' ∉ passed) (s : List Char) :
    Spells ('\'' :: (passed ++ s.flatMap insideQuotes ++ ['\'']))
      (.quote :: (passed.map .quoted ++ s.flatMap glyphsInside)) := by
  induction s generalizing passed with
  | nil => simpa using spells_singleQuotes h
  | cons c rest ih =>
    by_cases hc : c = '\''
    · subst hc
      have hquote : Spells ['"', '\'', '"'] [.quote, .quoted '\''] :=
        @spells_doubleQuotes ['\''] (by simp [isPlainInQuotes, marksInQuotes, backquote])
      have hrest := @ih [] (by simp)
      simpa [insideQuotes, glyphsInside] using ((spells_singleQuotes h).append hquote).append hrest
    · have hrest := @ih (passed ++ [c]) (by simp [h, Ne.symm hc])
      simpa [insideQuotes, glyphsInside, hc] using hrest

/-- A text written as a word goes on with any word by its own glyphs only. -/
theorem spells_word (s : List Char) : Spells (word s) (spelling s) := by
  unfold word spelling
  split
  · exact @spells_singleQuotes [] (by simp)
  · rename_i hne
    split
    · rename_i hharmless
      rw [List.all_eq_true] at hharmless
      exact spells_ofBare (by simpa using hne) fun c hc => isPlain_of_isHarmless (hharmless c hc)
    · simpa [singleQuoted] using @spells_singleQuoted_behind [] (by simp) s

namespace Word

lemma literal?_append (w v : Word) :
    literal? (w ++ v) = (literal? w).bind fun s => (literal? v).map (s ++ ·) := by
  induction w with
  | nil => simp [literal?]
  | cons glyph rest ih =>
    cases glyph <;> simp [literal?, ih, Option.map_bind, Option.bind_map, Function.comp_def]

lemma literal?_ofBare (s : List Char) : literal? (ofBare s) = some s := by
  induction s with
  | nil => rfl
  | cons c rest ih => simpa [ofBare, literal?] using ih

end Word

/-- The characters of a text that is written as a word are the text, with all the signs that mean
something elsewhere. -/
theorem literal?_spelling (s : List Char) : Word.literal? (spelling s) = some s := by
  have hinside : Word.literal? (s.flatMap glyphsInside) = some s := by
    induction s with
    | nil => rfl
    | cons c rest ih =>
      have hfirst : Word.literal? (glyphsInside c) = some [c] := by
        unfold glyphsInside
        split <;> rfl
      simp [Word.literal?_append, hfirst, ih]
  unfold spelling
  split
  · simp_all [Word.literal?]
  · split
    · exact Word.literal?_ofBare s
    · simpa [Word.literal?] using hinside

example : spelling "it's".toList =
    [.quote, .quoted 'i', .quoted 't', .quote, .quoted '\'', .quote, .quoted 's'] := by
  decide

/-! ## Texts that end in an open word -/

/-- A text, read where no word has begun, gives some tokens, the last of which is a word that is
still open. -/
def Reads (text : String) (ts : List Token) : Prop :=
  ∃ (front : List Token) (last : Word), ts = front ++ [.word last] ∧
    ∀ s, tokensAfter none (text.toList ++ s) = front ++ tokensAfter (some last.reverse) s

/-- A text ends a word and gives the tokens behind it. -/
def Joins (joint : String) (ts : List Token) : Prop :=
  ∀ (last : Word) (s : List Char),
    tokensAfter (some last.reverse) (joint.toList ++ s) = .word last :: ts ++ tokensAfter none s

lemma Reads.tokens_eq {text : String} {ts : List Token} (h : Reads text ts) : tokens text = ts := by
  obtain ⟨front, last, rfl, hreads⟩ := h
  have hend := hreads []
  rw [List.append_nil] at hend
  rw [tokens, hend, tokensAfter, closeWord, List.reverse_reverse]

/-- A joint ends the open word, so what follows is read where no word has begun. -/
lemma Reads.join {text joint more : String} {ts between us : List Token} (h : Reads text ts)
    (hjoint : Joins joint between) (hmore : Reads more us) :
    Reads (text ++ joint ++ more) (ts ++ between ++ us) := by
  obtain ⟨front, last, rfl, hreads⟩ := h
  obtain ⟨middle, next, rfl, hreads'⟩ := hmore
  refine ⟨front ++ [.word last] ++ between ++ middle, next, by simp, fun s => ?_⟩
  have hfirst := hreads (joint.toList ++ (more.toList ++ s))
  rw [hjoint, hreads'] at hfirst
  simpa using hfirst

lemma joins_blank : Joins " " [] := by
  intro last s
  simp [tokensAfter_blank, closeWord]

/-- Between two joints there may be something that ends in a word. -/
lemma Joins.around {joint text more : String} {ts us vs : List Token} (h : Joins joint ts)
    (htext : Reads text us) (hmore : Joins more vs) : Joins (joint ++ text ++ more) (ts ++ us ++ vs) := by
  obtain ⟨front, next, rfl, hreads⟩ := htext
  intro last s
  have hfirst := h last (text.toList ++ (more.toList ++ s))
  rw [hreads, hmore] at hfirst
  simpa using hfirst

lemma Spells.reads {text : String} {w : Word} (h : Spells text.toList w) : Reads text [.word w] := by
  refine ⟨[], w, rfl, fun s => ?_⟩
  rw [h none s]
  simp

/-- Whether a text means nothing but itself as a word. -/
def isPlainWord (s : String) : Bool :=
  !s.toList.isEmpty && s.toList.all isPlain

lemma reads_of_isPlainWord {s : String} (h : isPlainWord s = true) :
    Reads s [.word (.ofBare s.toList)] := by
  simp only [isPlainWord, Bool.and_eq_true, Bool.not_eq_true', List.isEmpty_eq_false_iff] at h
  exact (spells_ofBare h.1 (List.all_eq_true.mp h.2)).reads

/-- A text written as a word reads as that word. -/
theorem reads_quote (text : String) : Reads (quote text) [.word (spelling text.toList)] :=
  Spells.reads (by simpa [quote] using spells_word text.toList)

end ProjectCheck.Shell
