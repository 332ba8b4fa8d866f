import ProjectCheck.Proofs.Text.Reading
import ProjectCheck.Value.JsonReader

/-!
# JSON tokens

The strings, numbers and words of JSON, as data that can only be written in the ways of the
standard.  Whatever follows a token, the reader takes exactly the token, and what it makes of it
does not depend on what follows (`takeString?_inner`, `takeScalar?_text`).  After a number there
must be no character that would make it longer.
-/

namespace ProjectCheck.Json

open ProjectCheck.Text ProjectCheck.Number ProjectCheck.Value

/-! ## Strings -/

/-- A character that stands for itself in a string. -/
structure PlainChar where
  char : Char
  notQuote : char ≠ '"'
  notBackslash : char ≠ '\\'
  notControl : 0x20 ≤ char.toNat

/-- A hexadecimal digit of either case. -/
structure HexDigit where
  char : Char
  isHex : ('0' ≤ char ∧ char ≤ '9') ∨ ('a' ≤ char ∧ char ≤ 'f') ∨ ('A' ≤ char ∧ char ≤ 'F')

/-- A character in a string, or an escape. -/
inductive StringPart where
  | plain (c : PlainChar)
  | letter (c : Char) (known : c ∈ ['"', '\\', '/', 'b', 'f', 'n', 'r', 't'])
  | code (a b c d : HexDigit)

/-- How a part of a string is written. -/
def StringPart.text : StringPart → List Char
  | plain c => [c.char]
  | letter c _ => ['\\', c]
  | code a b c d => ['\\', 'u', a.char, b.char, c.char, d.char]

/-- What stands between the quotes of a string. -/
def inner (parts : List StringPart) : List Char :=
  parts.flatMap StringPart.text

@[simp] lemma inner_cons (part : StringPart) (parts : List StringPart) :
    inner (part :: parts) = part.text ++ inner parts :=
  rfl

lemma HexDigit.exists_hexValue? (d : HexDigit) : ∃ n, hexValue? d.char = some n := by
  rw [hexValue?]
  rcases d.isHex with h | h | h
  · exact ⟨_, if_pos (by simp [h])⟩
  · split
    · exact ⟨_, rfl⟩
    · exact ⟨_, if_pos (by simp [h])⟩
  · split
    · exact ⟨_, rfl⟩
    · split
      · exact ⟨_, rfl⟩
      · exact ⟨_, if_pos (by simp [h])⟩

lemma HexDigit.ne_quote_and_backslash (d : HexDigit) : d.char ≠ '"' ∧ d.char ≠ '\\' := by
  have hhex := d.isHex
  constructor
  all_goals
    intro hd
    rw [hd] at hhex
    exact absurd hhex (by decide)

/-- Four hexadecimal digits are taken as a code. -/
lemma exists_takeCode? (a b c d : HexDigit) :
    ∃ n, ∀ rest, takeCode? (a.char :: b.char :: c.char :: d.char :: rest) = some (n, rest) := by
  obtain ⟨i, hi⟩ := a.exists_hexValue?
  obtain ⟨j, hj⟩ := b.exists_hexValue?
  obtain ⟨k, hk⟩ := c.exists_hexValue?
  obtain ⟨l, hl⟩ := d.exists_hexValue?
  exact ⟨16 * (16 * (16 * i + j) + k) + l, fun rest => by
    simp [takeCode?, hexNumber?, hi, hj, hk, hl]⟩

/-- Whether a low half follows is decided inside the string. -/
lemma takeLowHalf?_inner (parts : List StringPart) :
    (∀ rest, takeLowHalf? (inner parts ++ '"' :: rest) = none) ∨
      ∃ a b c d more low, parts = .code a b c d :: more ∧
        ∀ rest, takeLowHalf? (inner parts ++ '"' :: rest) =
          some (low, inner more ++ '"' :: rest) := by
  match parts with
  | [] => exact .inl fun rest => rfl
  | .plain c :: more =>
    left
    intro rest
    simp [StringPart.text, takeLowHalf?, c.notBackslash]
  | .letter c known :: more =>
    left
    intro rest
    have hu : c ≠ 'u' := by
      rintro rfl
      exact absurd known (by decide)
    simp [StringPart.text, takeLowHalf?, hu]
  | .code a b c d :: more =>
    obtain ⟨low, hlow⟩ := exists_takeCode? a b c d
    by_cases hrange : (0xDC00 ≤ low && low ≤ 0xDFFF) = true
    · exact .inr ⟨a, b, c, d, more, low, rfl, fun rest => by
        simp [StringPart.text, takeLowHalf?, hlow, hrange]⟩
    · exact .inl fun rest => by simp [StringPart.text, takeLowHalf?, hlow, hrange]

lemma takeString?_plain (c : PlainChar) (n : ℕ) (s : List Char) :
    takeString? (n + 1) (c.char :: s) =
      (takeString? n s).map fun cut => (c.char :: cut.1, cut.2) := by
  have hplain : (c.char == '\\' || decide (c.char.toNat < 0x20)) = false := by
    simp [c.notBackslash, c.notControl]
  rw [takeString?]
  · rw [hplain]
    rfl
  · exact c.notQuote
  · exact fun rest hc => absurd hc c.notBackslash
  · exact fun letter rest hc => absurd hc c.notBackslash

lemma exists_takeString?_letter {c : Char} (known : c ∈ ['"', '\\', '/', 'b', 'f', 'n', 'r', 't']) :
    ∃ meant, ∀ n s, takeString? (n + 1) ('\\' :: c :: s) =
      (takeString? n s).map fun cut => (meant :: cut.1, cut.2) := by
  simp only [List.mem_cons, List.not_mem_nil, or_false] at known
  rcases known with rfl | rfl | rfl | rfl | rfl | rfl | rfl | rfl
  all_goals exact ⟨_, fun n s => rfl⟩

/-- An escape by code is taken, with the low half that may follow. -/
lemma exists_takeEscapedCode? (a b c d : HexDigit) (more : List StringPart) :
    ∃ meant behind, behind <:+ more ∧ ∀ rest,
      takeEscapedCode? (a.char :: b.char :: c.char :: d.char :: (inner more ++ '"' :: rest)) =
        some (meant, inner behind ++ '"' :: rest) := by
  obtain ⟨high, hhigh⟩ := exists_takeCode? a b c d
  simp only [takeEscapedCode?, hhigh]
  by_cases hrange : (0xD800 ≤ high && high ≤ 0xDBFF) = true
  · simp only [hrange, if_true]
    rcases takeLowHalf?_inner more with hnone | ⟨_, _, _, _, behind, low, rfl, hlow⟩
    · simp only [hnone]
      exact ⟨_, more, List.suffix_refl _, fun rest => rfl⟩
    · simp only [hlow]
      exact ⟨_, behind, List.suffix_cons .., fun rest => rfl⟩
  · simp only [hrange]
    exact ⟨_, more, List.suffix_refl _, fun rest => rfl⟩

lemma length_inner_le {behind more : List StringPart} (h : behind <:+ more) :
    (inner behind).length ≤ (inner more).length := by
  obtain ⟨front, rfl⟩ := h
  simp [inner]

/-- What a string says does not depend on what follows it. -/
lemma exists_takeString? : (parts : List StringPart) →
    ∃ said, ∀ n rest, (inner parts).length < n →
      takeString? n (inner parts ++ '"' :: rest) = some (said, rest)
  | [] => by
    refine ⟨[], fun n rest hn => ?_⟩
    obtain ⟨n, rfl⟩ := Nat.exists_eq_add_of_lt hn
    rfl
  | .plain c :: more => by
    obtain ⟨said, hmore⟩ := exists_takeString? more
    refine ⟨c.char :: said, fun n rest hn => ?_⟩
    cases n with
    | zero => simp at hn
    | succ n =>
      simp only [inner_cons, StringPart.text, List.singleton_append, List.length_cons] at hn ⊢
      rw [List.cons_append, takeString?_plain, hmore n rest (by omega)]
      rfl
  | .letter c known :: more => by
    obtain ⟨said, hmore⟩ := exists_takeString? more
    obtain ⟨meant, hmeant⟩ := exists_takeString?_letter known
    refine ⟨meant :: said, fun n rest hn => ?_⟩
    cases n with
    | zero => simp at hn
    | succ n =>
      simp only [inner_cons, StringPart.text, List.cons_append, List.nil_append,
        List.length_cons] at hn ⊢
      rw [hmeant, hmore n rest (by omega)]
      rfl
  | .code a b c d :: more => by
    obtain ⟨meant, behind, hbehind, hcode⟩ := exists_takeEscapedCode? a b c d more
    have hshorter := hbehind.length_le
    have hfuel := length_inner_le hbehind
    obtain ⟨said, hmore⟩ := exists_takeString? behind
    refine ⟨meant :: said, fun n rest hn => ?_⟩
    cases n with
    | zero => simp at hn
    | succ n =>
      simp only [inner_cons, StringPart.text, List.cons_append, List.nil_append,
        List.length_cons] at hn ⊢
      rw [takeString?, hcode]
      dsimp only
      rw [hmore n rest (by omega)]
      rfl
termination_by parts => parts.length

/-- What a string says. -/
def said (parts : List StringPart) : List Char :=
  ((takeString? ((inner parts).length + 1) (inner parts ++ ['"'])).map Prod.fst).getD []

/-- **A string is taken whole, whatever follows it.** -/
theorem takeString?_inner (parts : List StringPart) {n : ℕ} (h : (inner parts).length < n)
    (rest : List Char) : takeString? n (inner parts ++ '"' :: rest) = some (said parts, rest) := by
  obtain ⟨text, htext⟩ := exists_takeString? parts
  rw [said, htext _ [] (Nat.lt_succ_self _), htext n rest h]
  rfl

/-! ## Numbers -/

/-- Some digits, at least one. -/
structure Digits where
  text : List Char
  nonempty : text ≠ []
  areDigits : ∀ c ∈ text, isAsciiDigit c = true

/-- The digits of an integer part: a zero alone, or digits that do not begin with zero. -/
structure Whole extends Digits where
  noLeadingZero : text = ['0'] ∨ text.head? ≠ some '0'

/-- An exponent. -/
structure Exponent where
  mark : Char
  isMark : mark = 'e' ∨ mark = 'E'
  sign : List Char
  isSign : sign = [] ∨ sign = ['+'] ∨ sign = ['-']
  digits : Digits

/-- A number. -/
structure Numeral where
  negative : Bool
  whole : Whole
  fraction : Option Digits
  exponent : Option Exponent

/-- How a fraction is written. -/
def fractionText : Option Digits → List Char
  | none => []
  | some digits => '.' :: digits.text

/-- How an exponent is written. -/
def exponentText : Option Exponent → List Char
  | none => []
  | some e => e.mark :: e.sign ++ e.digits.text

/-- How a number is written. -/
def Numeral.text (n : Numeral) : List Char :=
  (if n.negative then ['-'] else []) ++ n.whole.text ++ fractionText n.fraction ++
    exponentText n.exponent

/-- What follows a number does not make it longer. -/
def EndsNumber (rest : List Char) : Prop :=
  ∀ c ∈ rest.head?, isAsciiDigit c = false ∧ c ≠ '.' ∧ c ≠ 'e' ∧ c ≠ 'E'

/-- What follows some digits is no digit. -/
def EndsDigits (rest : List Char) : Prop :=
  ∀ c ∈ rest.head?, isAsciiDigit c = false

lemma EndsNumber.endsDigits {rest : List Char} (h : EndsNumber rest) : EndsDigits rest :=
  fun c hc => (h c hc).1

lemma Digits.takeAsciiDigits_append (d : Digits) {rest : List Char} (h : EndsDigits rest) :
    takeAsciiDigits (d.text ++ rest) = (d.text, rest) := by
  rw [takeAsciiDigits, takeWhile_append_of_stops d.areDigits h,
    dropWhile_append_of_stops d.areDigits h]

lemma Whole.takeWhole?_append (w : Whole) {rest : List Char} (h : EndsDigits rest) :
    takeWhole? (w.text ++ rest) = some (w.text, rest) := by
  have hdigits := w.toDigits.takeAsciiDigits_append h
  rcases w.noLeadingZero with hzero | hzero
  · rw [hzero]
    rfl
  · obtain ⟨c, more, htext⟩ := List.exists_cons_of_ne_nil w.nonempty
    rw [htext] at hdigits hzero ⊢
    have hc : c ≠ '0' := fun hc => hzero (by rw [hc]; rfl)
    rw [takeWhole?]
    · rw [hdigits]
    · intro rest hrest
      exact hc (List.cons.inj hrest).1

lemma takeFraction_append (fraction : Option Digits) {rest : List Char} (h : EndsDigits rest)
    (hpoint : rest.head? ≠ some '.') :
    takeFraction (fractionText fraction ++ rest) = ((fraction.map Digits.text).getD [], rest) := by
  cases fraction with
  | none =>
    rw [fractionText, List.nil_append, takeFraction]
    · rfl
    · rintro more rfl
      exact hpoint rfl
  | some d =>
    obtain ⟨c, more, htext⟩ := List.exists_cons_of_ne_nil d.nonempty
    have hdigits := d.takeAsciiDigits_append h
    rw [htext, List.cons_append] at hdigits
    simp only [fractionText, List.cons_append, takeFraction, htext, hdigits, Option.map_some,
      Option.getD_some]

/-- Digits are taken with the sign before them. -/
lemma exists_takeSign (e : Exponent) :
    ∃ negative, ∀ rest, takeSign (e.sign ++ e.digits.text ++ rest) =
      (negative, e.digits.text ++ rest) := by
  obtain ⟨c, more, htext⟩ := List.exists_cons_of_ne_nil e.digits.nonempty
  have hc : isAsciiDigit c = true := e.digits.areDigits c (by rw [htext]; exact List.mem_cons_self)
  rcases e.isSign with hsign | hsign | hsign
  · refine ⟨false, fun rest => ?_⟩
    rw [hsign, htext, List.nil_append, List.cons_append, takeSign]
    · intro _ hminus
      rw [(List.cons.inj hminus).1] at hc
      exact absurd hc (by decide)
    · intro _ hplus
      rw [(List.cons.inj hplus).1] at hc
      exact absurd hc (by decide)
  · exact ⟨false, fun rest => by rw [hsign]; rfl⟩
  · exact ⟨true, fun rest => by rw [hsign]; rfl⟩

lemma exists_takeExponent (exponent : Option Exponent) :
    ∃ power, ∀ rest, EndsNumber rest →
      takeExponent (exponentText exponent ++ rest) = (power, rest) := by
  cases exponent with
  | none =>
    refine ⟨none, fun rest h => ?_⟩
    cases rest with
    | nil => rfl
    | cons c rest =>
      obtain ⟨-, -, hsmall, hlarge⟩ := h c rfl
      simp [exponentText, takeExponent, hsmall, hlarge]
  | some e =>
    obtain ⟨negative, hsign⟩ := exists_takeSign e
    obtain ⟨c, more, htext⟩ := List.exists_cons_of_ne_nil e.digits.nonempty
    have hmark : (e.mark == 'e' || e.mark == 'E') = true := by
      rcases e.isMark with hmark | hmark <;> rw [hmark] <;> rfl
    refine ⟨some (if negative then -asciiValue e.digits.text else asciiValue e.digits.text),
      fun rest h => ?_⟩
    have hdigits := e.digits.takeAsciiDigits_append h.endsDigits
    simp only [exponentText, List.cons_append, takeExponent, hmark, if_true, hsign, hdigits]
    rw [htext]

/-- **A number is taken whole, if nothing makes it longer.** -/
theorem exists_takeNumber? (n : Numeral) :
    ∃ v : Option Value, ∀ rest, EndsNumber rest →
      takeNumber? n.negative (n.whole.text ++ fractionText n.fraction ++
        exponentText n.exponent ++ rest) = v.map (·, rest) := by
  obtain ⟨power, hexponent⟩ := exists_takeExponent n.exponent
  -- what follows the fraction, and what follows the whole part
  have hafter : ∀ rest, EndsNumber rest →
      EndsDigits (exponentText n.exponent ++ rest) ∧
        (exponentText n.exponent ++ rest).head? ≠ some '.' := fun rest h => by
    cases hexp : n.exponent with
    | none => exact ⟨h.endsDigits, fun hpoint => (h '.' hpoint).2.1 rfl⟩
    | some e =>
      rcases e.isMark with hmark | hmark
      · simp [exponentText, hmark, EndsDigits, isAsciiDigit]
      · simp [exponentText, hmark, EndsDigits, isAsciiDigit]
  have hfraction : ∀ rest, EndsNumber rest →
      EndsDigits (fractionText n.fraction ++ (exponentText n.exponent ++ rest)) := fun rest h => by
    cases hfrac : n.fraction with
    | none => exact (hafter rest h).1
    | some d => simp [fractionText, EndsDigits, isAsciiDigit]
  have hparts : ∀ rest, EndsNumber rest →
      takeWhole? (n.whole.text ++ fractionText n.fraction ++ exponentText n.exponent ++ rest) =
          some (n.whole.text, fractionText n.fraction ++ (exponentText n.exponent ++ rest)) ∧
        takeFraction (fractionText n.fraction ++ (exponentText n.exponent ++ rest)) =
          ((n.fraction.map Digits.text).getD [], exponentText n.exponent ++ rest) ∧
        takeExponent (exponentText n.exponent ++ rest) = (power, rest) := fun rest h => by
    obtain ⟨hdigits, hpoint⟩ := hafter rest h
    refine ⟨?_, takeFraction_append n.fraction hdigits hpoint, hexponent rest h⟩
    rw [List.append_assoc, List.append_assoc]
    exact n.whole.takeWhole?_append (hfraction rest h)
  -- the value is the one that the number has at the end of a text
  have hend : EndsNumber [] := by simp [EndsNumber]
  obtain ⟨hwhole₀, hfraction₀, hexponent₀⟩ := hparts [] hend
  refine ⟨(takeNumber? n.negative (n.whole.text ++ fractionText n.fraction ++
    exponentText n.exponent ++ [])).map Prod.fst, fun rest h => ?_⟩
  obtain ⟨hwhole, hfraction, hexponent⟩ := hparts rest h
  simp only [takeNumber?, hwhole, hwhole₀, hfraction, hfraction₀, hexponent, hexponent₀]
  split
  · split <;> rfl
  · rfl

/-! ## Words -/

/-- A number, or a word with a meaning of its own. -/
inductive Word where
  | null
  | true
  | false
  | number (n : Numeral)

/-- How a word is written. -/
def Word.text : Word → List Char
  | null => "null".toList
  | true => "true".toList
  | false => "false".toList
  | number n => n.text

/-- The value of a word, if it has one: an integer may have too many digits. -/
def Word.value? (w : Word) : Option Value :=
  (takeScalar? w.text).map Prod.fst

/-- A digit is none of the characters with which the other words begin. -/
lemma ne_of_isAsciiDigit {c : Char} (hc : isAsciiDigit c = true) :
    'n' ≠ c ∧ 't' ≠ c ∧ 'f' ≠ c ∧ 'N' ≠ c ∧ 'I' ≠ c ∧ '-' ≠ c := by
  refine ⟨?_, ?_, ?_, ?_, ?_, ?_⟩
  all_goals
    rintro rfl
    exact absurd hc (by decide)

/-- Digits that stand where a value begins are a number. -/
lemma takeScalar?_of_digit {c : Char} (hc : isAsciiDigit c = true) (s : List Char) :
    takeScalar? (c :: s) = takeNumber? false (c :: s) := by
  obtain ⟨hn, ht, hf, hN, hI, hminus⟩ := ne_of_isAsciiDigit hc
  simp [takeScalar?, afterPrefix?, hn, ht, hf, hN, hI, hminus, hminus.symm]

lemma takeScalar?_of_minus {c : Char} (hc : isAsciiDigit c = true) (s : List Char) :
    takeScalar? ('-' :: c :: s) = takeNumber? true (c :: s) := by
  obtain ⟨-, -, -, -, hI, -⟩ := ne_of_isAsciiDigit hc
  simp [takeScalar?, afterPrefix?, hI]

/-- **A word is taken whole, if nothing makes it longer.** -/
theorem takeScalar?_text (w : Word) {rest : List Char} (h : EndsNumber rest) :
    takeScalar? (w.text ++ rest) = w.value?.map (·, rest) := by
  cases w with
  | null => rfl
  | true => rfl
  | false => rfl
  | number n =>
    obtain ⟨v, hv⟩ := exists_takeNumber? n
    obtain ⟨c, digits, htext⟩ := List.exists_cons_of_ne_nil n.whole.nonempty
    have hc : isAsciiDigit c = true := n.whole.areDigits c (by rw [htext]; exact List.mem_cons_self)
    -- where a value begins, a number is read after its sign
    have hnumber : ∀ rest, takeScalar? (n.text ++ rest) =
        takeNumber? n.negative (n.whole.text ++ fractionText n.fraction ++
          exponentText n.exponent ++ rest) := fun rest => by
      rw [Numeral.text, htext]
      cases n.negative with
      | true => exact takeScalar?_of_minus hc _
      | false => exact takeScalar?_of_digit hc _
    have hend : EndsNumber [] := by simp [EndsNumber]
    have halone := hnumber []
    rw [hv [] hend, List.append_nil] at halone
    rw [Word.value?, Word.text, halone, hnumber, hv rest h]
    cases v <;> rfl

/-! ## Characters -/

/-- A character with which a value or a name can begin: neither blank nor a closing bracket. -/
def OpensItem (c : Char) : Prop :=
  isBlank c = false ∧ c ≠ ']' ∧ c ≠ '\x7d'

instance (c : Char) : Decidable (OpensItem c) :=
  inferInstanceAs (Decidable (_ ∧ _))

/-- A character that stands neither in front of a string nor in front of a comment, and is no
comma. -/
def IsOrdinary (c : Char) : Prop :=
  c ≠ '"' ∧ c ≠ '/' ∧ c ≠ ','

instance (c : Char) : Decidable (IsOrdinary c) :=
  inferInstanceAs (Decidable (_ ∧ _))

lemma opensItem_of_isAsciiDigit {c : Char} (hc : isAsciiDigit c = true) : OpensItem c := by
  simp only [isAsciiDigit, Bool.and_eq_true, decide_eq_true_eq, Char.le_def,
    UInt32.le_iff_toNat_le, Char.toNat_val] at hc
  have hblank : isBlank c = false := by
    have hlow : 48 ≤ c.toNat := hc.1
    have hhigh : c.toNat ≤ 57 := hc.2
    simp [isBlank, blankRanges, CodeRanges.covers]
    omega
  refine ⟨hblank, ?_, ?_⟩
  all_goals
    rintro rfl
    exact absurd hc (by decide)

lemma isOrdinary_of_isAsciiDigit {c : Char} (hc : isAsciiDigit c = true) : IsOrdinary c := by
  refine ⟨?_, ?_, ?_⟩
  all_goals
    rintro rfl
    exact absurd hc (by decide)

lemma Digits.isOrdinary (d : Digits) : ∀ c ∈ d.text, IsOrdinary c :=
  fun c hc => isOrdinary_of_isAsciiDigit (d.areDigits c hc)

lemma Exponent.isOrdinary (e : Exponent) : ∀ c ∈ exponentText (some e), IsOrdinary c := by
  simp only [exponentText, List.cons_append, List.mem_cons, List.mem_append]
  rintro c (rfl | hsign | hdigit)
  · rcases e.isMark with hmark | hmark <;> rw [hmark] <;> decide
  · rcases e.isSign with hs | hs | hs <;>
      simp only [hs, List.mem_singleton, List.not_mem_nil] at hsign
    all_goals
      rw [hsign]
      decide
  · exact e.digits.isOrdinary c hdigit

/-- A word is made of ordinary characters. -/
lemma Word.isOrdinary (w : Word) : ∀ c ∈ w.text, IsOrdinary c := by
  cases w with
  | null | true | false => simp [Word.text, IsOrdinary]
  | number n =>
    simp only [Word.text, Numeral.text, List.mem_append]
    rintro c (((hminus | hwhole) | hfraction) | hexponent)
    · split at hminus
      · rw [List.mem_singleton.1 hminus]
        decide
      · cases hminus
    · exact n.whole.isOrdinary c hwhole
    · cases hfrac : n.fraction with
      | none => simp [hfrac, fractionText] at hfraction
      | some d =>
        rw [hfrac, fractionText, List.mem_cons] at hfraction
        rcases hfraction with rfl | hdigit
        · decide
        · exact d.isOrdinary c hdigit
    · cases hexp : n.exponent with
      | none => simp [hexp, exponentText] at hexponent
      | some e =>
        rw [hexp] at hexponent
        exact e.isOrdinary c hexponent

/-- A word is not empty, and begins in its own way. -/
lemma Word.exists_eq_cons (w : Word) :
    ∃ c more, w.text = c :: more ∧ OpensItem c ∧ c ≠ '"' ∧ c ≠ '[' ∧ c ≠ '\x7b' := by
  cases w with
  | null => exact ⟨'n', _, rfl, by decide⟩
  | true => exact ⟨'t', _, rfl, by decide⟩
  | false => exact ⟨'f', _, rfl, by decide⟩
  | number n =>
    obtain ⟨c, more, htext⟩ := List.exists_cons_of_ne_nil n.whole.nonempty
    have hc := n.whole.areDigits c (by rw [htext]; exact List.mem_cons_self)
    cases hsign : n.negative with
    | true => exact ⟨'-', _, by rw [Word.text, Numeral.text, hsign]; rfl, by decide⟩
    | false =>
      refine ⟨c, _, by rw [Word.text, Numeral.text, hsign, htext]; rfl,
        opensItem_of_isAsciiDigit hc, ?_, ?_, ?_⟩
      all_goals
        rintro rfl
        exact absurd hc (by decide)

end ProjectCheck.Json
