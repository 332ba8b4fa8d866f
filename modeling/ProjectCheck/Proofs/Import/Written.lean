import ProjectCheck.Import.Declaration
import ProjectCheck.Proofs.Text.Reading

/-!
# Import declarations as they are written

An import declaration names a module between quotes.  Before it stands nothing else, or a clause
that says what is bound: a default name, names in braces or a namespace behind a star, or a default
name with one of the others.  Between the words and marks there are blanks of any kind, and at least
one where two words would run together.

Reading gives back what was written, whatever follows (`takeDeclaration?_text`).  Only two words are
not what they seem.  A default name may be the word `type`, and then the word `from` is taken for the
name (`Clause.declaration`); and what is taken for the mark of a declaration of types may turn out to
be a default name, so that the clause is read again from its start.
-/

namespace ProjectCheck.Import

open ProjectCheck.Text

/-! ## Parts -/

/-- Blanks, perhaps none. -/
abbrev Blanks := { s : List Char // AllBlank s }

/-- One blank or more. -/
abbrev Gap := { s : List Char // AllBlank s ∧ s ≠ [] }

/-- A name: one word character or more. -/
abbrev Name := { s : List Char // (∀ c ∈ s, isWordChar c = true) ∧ s ≠ [] }

/-- What may stand between two braces. -/
abbrev NameList := { s : List Char // '\x7d' ∉ s }

/-- A specifier between quotes of either kind. -/
structure Quoted where
  opening : Char
  specifier : List Char
  closing : Char
  opens : isQuote opening = true
  closes : isQuote closing = true
  nonempty : specifier ≠ []
  unquoted : ∀ c ∈ specifier, isQuote c = false

/-- How a specifier is written. -/
def Quoted.text (q : Quoted) : List Char :=
  q.opening :: (q.specifier ++ [q.closing])

/-- What a declaration may bind besides a default name: names in braces, or a namespace. -/
inductive Binding where
  | names (inside : NameList) (after : Blanks)
  | star (beforeAs afterAs : Gap) (name : Name) (after : Gap)

/-- How a binding is written. -/
def Binding.text : Binding → List Char
  | names inside after => '\x7b' :: (inside.1 ++ '\x7d' :: after.1)
  | star beforeAs afterAs name after =>
    '*' :: (beforeAs.1 ++ 'a' :: 's' :: (afterAs.1 ++ (name.1 ++ after.1)))

/-- What a declaration binds. -/
inductive Clause where
  | default (name : Name) (after : Gap)
  | binding (b : Binding)
  | both (name : Name) (beforeComma afterComma : Blanks) (b : Binding)

/-- How a clause is written. -/
def Clause.text : Clause → List Char
  | default name after => name.1 ++ after.1
  | binding b => b.text
  | both name beforeComma afterComma b =>
    name.1 ++ (beforeComma.1 ++ ',' :: (afterComma.1 ++ b.text))

/-- An import declaration.  Of types only, it has the word `type` with blanks behind it. -/
inductive Written where
  | sideEffect (gap : Gap) (source : Quoted)
  | binding (gap : Gap) (typed : Option Gap) (clause : Clause) (afterFrom : Gap) (source : Quoted)

/-- The word `type` with the blanks behind it, if it is there. -/
def typeText : Option Gap → List Char
  | none => []
  | some gap => "type".toList ++ gap.1

/-- The word `from`, the blanks behind it and the specifier. -/
def fromText (afterFrom : Gap) (source : Quoted) : List Char :=
  "from".toList ++ (afterFrom.1 ++ source.text)

lemma fromText_eq (afterFrom : Gap) (source : Quoted) :
    fromText afterFrom source = "from".toList ++ (afterFrom.1 ++ source.text) :=
  rfl

namespace Written

/-- How a declaration is written. -/
def text : Written → List Char
  | sideEffect gap source => "import".toList ++ (gap.1 ++ source.text)
  | binding gap typed clause afterFrom source =>
    "import".toList ++ (gap.1 ++ (typeText typed ++ (clause.text ++ fromText afterFrom source)))

lemma text_sideEffect (gap : Gap) (source : Quoted) :
    (sideEffect gap source).text = "import".toList ++ (gap.1 ++ source.text) :=
  rfl

lemma text_plain (gap : Gap) (clause : Clause) (afterFrom : Gap) (source : Quoted) :
    (binding gap none clause afterFrom source).text =
      "import".toList ++ (gap.1 ++ (clause.text ++ fromText afterFrom source)) :=
  rfl

lemma text_typed (gap typed : Gap) (clause : Clause) (afterFrom : Gap) (source : Quoted) :
    (binding gap (some typed) clause afterFrom source).text = "import".toList ++
      (gap.1 ++ (("type".toList ++ typed.1) ++ (clause.text ++ fromText afterFrom source))) :=
  rfl

/-- The module that a declaration names. -/
def specifier : Written → String
  | sideEffect _ source => String.ofList source.specifier
  | binding _ _ _ _ source => String.ofList source.specifier

/-- The kind of a declaration, by its form. -/
def kindName : Written → String
  | sideEffect _ _ => "side_effect"
  | binding _ _ (.default _ _) _ _ => "default"
  | binding _ _ (.both _ _ _ _) _ _ => "default"
  | binding _ _ (.binding (.names _ _)) _ _ => "named"
  | binding _ _ (.binding (.star _ _ _ _)) _ _ => "namespace"

end Written

/-! ## What is read -/

/-- What is read of a binding. -/
def Binding.declaration (defaultName : Option String) (specifier : String) : Binding → Declaration
  | names inside _ => { defaultName, names := some (String.ofList inside.1), specifier }
  | star _ _ name _ => { defaultName, namespaceName := some (String.ofList name.1), specifier }

/-- What is read of a clause.  A default name alone that is the word `type` is taken for the mark of
a declaration of types, and then the word `from` for the name. -/
def Clause.declaration (typed : Option Gap) (specifier : String) : Clause → Declaration
  | default name _ =>
    let isMark : Bool := typed.isNone && name.1 == "type".toList
    { defaultName := some (if isMark then "from" else String.ofList name.1), specifier }
  | binding b => b.declaration none specifier
  | both name _ _ b => b.declaration (some (String.ofList name.1)) specifier

namespace Written

/-- What is read of a declaration. -/
def declaration : Written → Declaration
  | w@(sideEffect _ _) => { specifier := w.specifier }
  | w@(binding _ typed clause _ _) => clause.declaration typed w.specifier

@[simp] lemma specifier_declaration (w : Written) : w.declaration.specifier = w.specifier := by
  rcases w with _ | ⟨_, _, _ | (_ | _) | ⟨_, _, _, _ | _⟩, _, _⟩ <;> rfl

@[simp] lemma kindName_declaration (w : Written) : w.declaration.kindName = w.kindName := by
  rcases w with _ | ⟨_, _, _ | (_ | _) | ⟨_, _, _, _ | _⟩, _, _⟩ <;> rfl

end Written

/-! ## Specifiers -/

lemma Quoted.opening_eq (q : Quoted) : q.opening = '\'' ∨ q.opening = '"' := by
  simpa [isQuote] using q.opens

namespace Quoted

variable (q : Quoted)

lemma isBlank_opening : isBlank q.opening = false := by
  rcases q.opening_eq with h | h <;> rw [h] <;> decide

lemma isWordChar_opening : isWordChar q.opening = false := by
  rcases q.opening_eq with h | h <;> rw [h] <;> decide

lemma trimStart_text (s : List Char) : trimStart (q.text ++ s) = q.text ++ s :=
  trimStart_cons q.isBlank_opening _

/-- A text that begins with another character is no prefix of a specifier in quotes. -/
lemma afterPrefix?_text {c : Char} (hc : isQuote c = false) (lead s : List Char) :
    afterPrefix? (c :: lead) (q.text ++ s) = none := by
  have hne : c ≠ q.opening := by
    rintro rfl
    rw [q.opens] at hc
    contradiction
  rw [text, List.cons_append, afterPrefix?, if_neg hne]

lemma takeSpecifier?_text (s : List Char) :
    takeSpecifier? (q.text ++ s) = some (q.specifier, s) := by
  have hall : ∀ c ∈ q.specifier, (!isQuote c) = true := fun c hc => by rw [q.unquoted c hc]; rfl
  have hstop : ∀ c ∈ (q.closing :: s).head?, (!isQuote c) = false := by simp [q.closes]
  rw [text, List.cons_append, List.append_assoc, List.singleton_append, takeSpecifier?,
    if_pos q.opens, takeWhile_append_of_stops hall hstop, dropWhile_append_of_stops hall hstop]
  cases hspecifier : q.specifier with
  | nil => exact absurd hspecifier q.nonempty
  | cons c rest => rfl

end Quoted

section

variable (afterFrom : Gap) (q : Quoted) (s : List Char)

lemma fromText_append : fromText afterFrom q ++ s =
    'f' :: 'r' :: 'o' :: 'm' :: (afterFrom.1 ++ (q.text ++ s)) := by
  rw [fromText_eq, List.append_assoc, List.append_assoc]
  rfl

lemma trimStart_fromText : trimStart (fromText afterFrom q ++ s) = fromText afterFrom q ++ s := by
  rw [fromText_append]
  exact trimStart_cons (by decide) _

/-- Blanks in front of a specifier in quotes do not matter. -/
lemma takeSource?_text {blanks : List Char} (hblanks : AllBlank blanks) :
    takeSource? (blanks ++ (q.text ++ s)) = some (q.specifier, s) := by
  have hfrom : dropFrom (q.text ++ s) = q.text ++ s := by
    have hnone : afterPrefix? "from".toList (q.text ++ s) = none := q.afterPrefix?_text rfl _ s
    rw [dropFrom, hnone]
    rfl
  rw [takeSource?, trimStart_blank_append hblanks, q.trimStart_text, hfrom, q.takeSpecifier?_text]

/-- Nor does the word `from`. -/
lemma takeSource?_fromText {blanks : List Char} (hblanks : AllBlank blanks) :
    takeSource? (blanks ++ (fromText afterFrom q ++ s)) = some (q.specifier, s) := by
  have hafter : afterPrefix? "from".toList (fromText afterFrom q ++ s) =
      some (afterFrom.1 ++ (q.text ++ s)) := by
    rw [fromText_eq, List.append_assoc, List.append_assoc, afterPrefix?_append]
  have hfrom : dropFrom (fromText afterFrom q ++ s) = q.text ++ s := by
    rw [dropFrom, hafter, Option.bind_some, dropBlanks?_append afterFrom.2.1 afterFrom.2.2,
      q.trimStart_text, Option.getD_some]
  rw [takeSource?, trimStart_blank_append hblanks, trimStart_fromText, hfrom,
    q.takeSpecifier?_text]

end

/-! ## Bindings -/

lemma trimStart_name (name : Name) (s : List Char) : trimStart (name.1 ++ s) = name.1 ++ s := by
  obtain ⟨c, rest, hname⟩ := List.exists_cons_of_ne_nil name.2.2
  rw [hname]
  exact trimStart_cons (isBlank_of_isWordChar (name.2.1 c (by simp [hname]))) _

/-- A word ends in front of a gap. -/
lemma endsWord_gap (gap : Gap) (s : List Char) : endsWord (gap.1 ++ s) = true := by
  obtain ⟨c, rest, hgap⟩ := List.exists_cons_of_ne_nil gap.2.2
  rw [hgap]
  exact endsWord_cons (isWordChar_of_isBlank (gap.2.1 c (by simp [hgap]))) _

lemma takeNames?_cons {c : Char} (hc : c ≠ '\x7b') (s : List Char) : takeNames? (c :: s) = none := by
  rw [takeNames?, afterPrefix?, if_neg (Ne.symm hc)]
  rfl

lemma takeNamespace?_cons {c : Char} (hc : c ≠ '*') (s : List Char) :
    takeNamespace? (c :: s) = none := by
  rw [takeNamespace?, afterPrefix?, if_neg (Ne.symm hc)]
  rfl

lemma takeNames?_names (inside : NameList) (s : List Char) :
    takeNames? ('\x7b' :: (inside.1 ++ '\x7d' :: s)) = some (inside.1, s) := by
  have hall := bne_of_notMem inside.2
  have hopen : afterPrefix? ['\x7b'] ('\x7b' :: (inside.1 ++ '\x7d' :: s)) =
      some (inside.1 ++ '\x7d' :: s) := by simp [afterPrefix?]
  have hstop : ∀ c ∈ ('\x7d' :: s).head?, (c != '\x7d') = false := by simp
  rw [takeNames?, hopen]
  simp [takeWhile_append_of_stops hall hstop, dropWhile_append_of_stops hall hstop]

lemma takeNamespace?_star (beforeAs afterAs : Gap) (name : Name) {s : List Char}
    (hend : endsWord s = true) :
    takeNamespace? ('*' :: (beforeAs.1 ++ 'a' :: 's' :: (afterAs.1 ++ (name.1 ++ s)))) =
      some (name.1, s) := by
  have has : trimStart ('a' :: 's' :: (afterAs.1 ++ (name.1 ++ s))) = _ := trimStart_cons rfl _
  simp [takeNamespace?, afterPrefix?, dropBlanks?_append beforeAs.2.1 beforeAs.2.2, has,
    dropBlanks?_append afterAs.2.1 afterAs.2.2, trimStart_name name s,
    takeWord?_append name.2.1 name.2.2 hend]

section

variable (defaultName : Option String) (afterFrom : Gap) (q : Quoted) (s : List Char)

/-- What follows a default name alone is the specifier. -/
lemma takeBindings?_fromText : takeBindings? defaultName (fromText afterFrom q ++ s) =
    some ({ defaultName, specifier := String.ofList q.specifier }, s) := by
  have hnone : AllBlank [] := by simp [AllBlank]
  have hsource := takeSource?_fromText afterFrom q s hnone
  rw [List.nil_append] at hsource
  rw [takeBindings?, hsource, fromText_append, takeNames?_cons (by decide),
    takeNamespace?_cons (by decide)]
  rfl

lemma takeBindings?_text : takeBindings? defaultName (q.text ++ s) =
    some ({ defaultName, specifier := String.ofList q.specifier }, s) := by
  have hnone : AllBlank [] := by simp [AllBlank]
  have hsource := takeSource?_text q s hnone
  rw [List.nil_append] at hsource
  have hnames : takeNames? (q.text ++ s) = none := by
    rw [takeNames?, q.afterPrefix?_text (by decide)]
    rfl
  have hstar : takeNamespace? (q.text ++ s) = none := by
    rw [takeNamespace?, q.afterPrefix?_text (by decide)]
    rfl
  rw [takeBindings?, hsource, hnames, hstar]
  rfl

lemma takeBindings?_binding (b : Binding) :
    takeBindings? defaultName (b.text ++ (fromText afterFrom q ++ s)) =
      some (b.declaration defaultName (String.ofList q.specifier), s) := by
  cases b with
  | names inside after =>
    have hnames := takeNames?_names inside (after.1 ++ (fromText afterFrom q ++ s))
    have htext : (Binding.names inside after).text ++ (fromText afterFrom q ++ s) =
        '\x7b' :: (inside.1 ++ '\x7d' :: (after.1 ++ (fromText afterFrom q ++ s))) := by
      simp [Binding.text]
    rw [htext, takeBindings?, hnames]
    dsimp only
    rw [takeSource?_fromText afterFrom q s after.2]
    rfl
  | star beforeAs afterAs name after =>
    have hstar := takeNamespace?_star beforeAs afterAs name
      (endsWord_gap after (fromText afterFrom q ++ s))
    have htext : (Binding.star beforeAs afterAs name after).text ++ (fromText afterFrom q ++ s) =
        '*' :: (beforeAs.1 ++ 'a' :: 's' :: (afterAs.1 ++
          (name.1 ++ (after.1 ++ (fromText afterFrom q ++ s))))) := by
      simp [Binding.text]
    rw [htext, takeBindings?, takeNames?_cons (by decide), hstar]
    dsimp only
    rw [takeSource?_fromText afterFrom q s after.2.1]
    rfl

end

/-! ## Clauses -/

/-- A binding begins with a brace or a star. -/
lemma Binding.text_eq (b : Binding) : ∃ c rest, b.text = c :: rest ∧ (c = '\x7b' ∨ c = '*') := by
  cases b with
  | names inside after => exact ⟨_, _, rfl, Or.inl rfl⟩
  | star beforeAs afterAs name after => exact ⟨_, _, rfl, Or.inr rfl⟩

lemma Binding.trimStart_text (b : Binding) (s : List Char) :
    trimStart (b.text ++ s) = b.text ++ s := by
  obtain ⟨c, rest, htext, hc⟩ := b.text_eq
  rw [htext]
  refine trimStart_cons ?_ _
  rcases hc with rfl | rfl <;> decide

lemma Clause.text_both (name : Name) (beforeComma afterComma : Blanks) (b : Binding)
    (s : List Char) : (both name beforeComma afterComma b).text ++ s =
      name.1 ++ (beforeComma.1 ++ ',' :: (afterComma.1 ++ (b.text ++ s))) := by
  simp [text]

lemma endsWord_comma (blanks : Blanks) (s : List Char) :
    endsWord (blanks.1 ++ ',' :: s) = true :=
  endsWord_append blanks.2 (endsWord_cons (by decide) s)

section

variable (afterFrom : Gap) (q : Quoted) (s : List Char)

lemma takeClause?_default (name : Name) (after : Gap) :
    takeClause? (name.1 ++ (after.1 ++ (fromText afterFrom q ++ s))) =
      some ({ defaultName := some (String.ofList name.1),
              specifier := String.ofList q.specifier }, s) := by
  have hword := takeWord?_append name.2.1 name.2.2
    (endsWord_gap after (fromText afterFrom q ++ s))
  have hcomma : dropLead [','] (fromText afterFrom q ++ s) = fromText afterFrom q ++ s := by
    rw [fromText_append]
    rfl
  rw [takeClause?, hword]
  dsimp only
  rw [trimStart_blank_append after.2.1, trimStart_fromText, hcomma, trimStart_fromText,
    takeBindings?_fromText]

lemma takeClause?_binding (b : Binding) :
    takeClause? (b.text ++ (fromText afterFrom q ++ s)) =
      some (b.declaration none (String.ofList q.specifier), s) := by
  have hword : takeWord? (b.text ++ (fromText afterFrom q ++ s)) = none := by
    obtain ⟨c, rest, htext, hc⟩ := b.text_eq
    rw [htext]
    refine takeWord?_cons ?_ _
    rcases hc with rfl | rfl <;> decide
  rw [takeClause?, hword]
  exact takeBindings?_binding none afterFrom q s b

lemma takeClause?_both (name : Name) (beforeComma afterComma : Blanks) (b : Binding) :
    takeClause? (name.1 ++ (beforeComma.1 ++ ',' ::
        (afterComma.1 ++ (b.text ++ (fromText afterFrom q ++ s))))) =
      some (b.declaration (some (String.ofList name.1)) (String.ofList q.specifier), s) := by
  have hword := takeWord?_append name.2.1 name.2.2
    (endsWord_comma beforeComma (afterComma.1 ++ (b.text ++ (fromText afterFrom q ++ s))))
  have hcomma : ∀ t, dropLead [','] (',' :: t) = t := fun t => by simp [dropLead, afterPrefix?]
  rw [takeClause?, hword]
  dsimp only
  rw [trimStart_append beforeComma.2 (by decide), hcomma, trimStart_blank_append afterComma.2,
    b.trimStart_text, takeBindings?_binding]

/-- A comma begins no clause. -/
lemma takeClause?_comma : takeClause? (',' :: s) = none := by
  have hfrom : dropFrom (',' :: s) = ',' :: s := rfl
  have hsource : takeSpecifier? (',' :: s) = none := rfl
  rw [takeClause?, takeWord?_cons (by decide)]
  dsimp only
  rw [takeBindings?, takeNames?_cons (by decide), takeNamespace?_cons (by decide)]
  dsimp only
  rw [takeSource?, trimStart_cons (by decide), hfrom, hsource]
  rfl

/-- A specifier alone binds nothing. -/
lemma takeClause?_text : takeClause? (q.text ++ s) =
    some ({ specifier := String.ofList q.specifier }, s) := by
  have hword : takeWord? (q.text ++ s) = none := takeWord?_cons q.isWordChar_opening _
  rw [takeClause?, hword]
  exact takeBindings?_text none q s

/-- Where the word `from` stands first, it is taken for a default name. -/
lemma takeClause?_fromText : takeClause? (fromText afterFrom q ++ s) =
    some ({ defaultName := some "from", specifier := String.ofList q.specifier }, s) := by
  have hword : takeWord? (fromText afterFrom q ++ s) =
      some ("from".toList, afterFrom.1 ++ (q.text ++ s)) := by
    have hletters : ∀ c ∈ "from".toList, isWordChar c = true := List.all_eq_true.1 (by decide)
    rw [fromText_eq, List.append_assoc, List.append_assoc]
    exact takeWord?_append hletters (by decide) (endsWord_gap afterFrom _)
  have hcomma : dropLead [','] (q.text ++ s) = q.text ++ s := by
    rw [dropLead, q.afterPrefix?_text rfl]
    rfl
  rw [takeClause?, hword]
  dsimp only
  rw [trimStart_blank_append afterFrom.2.1, q.trimStart_text, hcomma, q.trimStart_text,
    takeBindings?_text]
  rfl

/-- Behind the mark of a declaration of types a clause is read as it was written. -/
lemma takeClause?_clause (clause : Clause) (typed : Gap) :
    takeClause? (clause.text ++ (fromText afterFrom q ++ s)) =
      some (clause.declaration (some typed) (String.ofList q.specifier), s) := by
  cases clause with
  | default name after =>
    rw [Clause.text, List.append_assoc]
    exact takeClause?_default afterFrom q s name after
  | binding b => exact takeClause?_binding afterFrom q s b
  | both name beforeComma afterComma b =>
    rw [Clause.text_both]
    exact takeClause?_both afterFrom q s name beforeComma afterComma b

end

lemma Clause.trimStart_text (clause : Clause) (s : List Char) :
    trimStart (clause.text ++ s) = clause.text ++ s := by
  cases clause with
  | default name after =>
    rw [text, List.append_assoc]
    exact trimStart_name name _
  | binding b => exact b.trimStart_text s
  | both name beforeComma afterComma b =>
    rw [text, List.append_assoc]
    exact trimStart_name name _

/-! ## The word `type` -/

/-- A name is taken for the word `type` with blanks behind it if it is this word. -/
lemma afterType_name (name : Name) {s : List Char} (hend : endsWord s = true) :
    (afterPrefix? "type".toList (name.1 ++ s)).bind dropBlanks? =
      if name.1 = "type".toList then dropBlanks? s else none := by
  split
  next htype => rw [htype, afterPrefix?_append, Option.bind_some]
  next hother =>
    cases hafter : afterPrefix? "type".toList (name.1 ++ s) with
    | none => rfl
    | some after =>
      have hcut := afterPrefix?_eq_some hafter
      rcases prefix_append_cases ⟨after, hcut.symm⟩ with ⟨⟨more, hmore⟩, -⟩ | ⟨rest, hrest, hs⟩
      · -- the name goes on behind the word, and no blank can stand there
        rw [← hmore, List.append_assoc, List.append_cancel_left_eq] at hcut
        cases more with
        | nil => exact absurd (hmore.symm.trans (List.append_nil _)) hother
        | cons c more =>
          have hc : isWordChar c = true := name.2.1 c (by rw [← hmore]; simp)
          rw [← hcut, List.cons_append]
          exact dropBlanks?_cons (isBlank_of_isWordChar hc) _
      · -- the word goes on behind the name, where no word character can stand
        cases rest with
        | nil => exact absurd (hrest.trans (List.append_nil _)).symm hother
        | cons c rest =>
          obtain ⟨t, rfl⟩ := hs
          have hmem : c ∈ "type".toList := by
            rw [hrest]
            simp
          have hword : ∀ d ∈ "type".toList, isWordChar d = true := List.all_eq_true.1 (by decide)
          simp [endsWord, isWordSide, hword c hmem] at hend

/-- A text that begins with no `t` does not begin with the word `type`. -/
lemma afterType_cons {c : Char} (hc : c ≠ 't') (s : List Char) :
    (afterPrefix? "type".toList (c :: s)).bind dropBlanks? = none := by
  have hnone : afterPrefix? "type".toList (c :: s) = none := if_neg (Ne.symm hc)
  rw [hnone]
  rfl

/-! ## Declarations -/

/-- A declaration is read from its clause on. -/
lemma takeDeclaration?_import (gap : Gap) {s : List Char} (hs : trimStart s = s) :
    takeDeclaration? ("import".toList ++ (gap.1 ++ s)) =
      match (afterPrefix? "type".toList s).bind dropBlanks? with
      | none => takeClause? s
      | some typed => (takeClause? typed).or (takeClause? s) := by
  rw [takeDeclaration?, afterPrefix?_append]
  simp only [Option.bind_eq_bind, Option.bind_some, dropBlanks?_append gap.2.1 gap.2.2, hs]
  cases (afterPrefix? "type".toList s).bind dropBlanks? with
  | none => rfl
  | some typed =>
    dsimp only
    cases takeClause? typed <;> rfl

section

variable (gap : Gap) (afterFrom : Gap) (q : Quoted) (s : List Char)

lemma takeDeclaration?_sideEffect :
    takeDeclaration? ((Written.sideEffect gap q).text ++ s) =
      some ((Written.sideEffect gap q).declaration, s) := by
  have hopening : q.opening ≠ 't' := by
    rcases q.opening_eq with h | h <;> rw [h] <;> decide
  have htype : (afterPrefix? "type".toList (q.text ++ s)).bind dropBlanks? = none :=
    afterType_cons hopening _
  rw [Written.text_sideEffect, List.append_assoc, List.append_assoc,
    takeDeclaration?_import gap (q.trimStart_text s), htype]
  exact takeClause?_text q s

lemma takeDeclaration?_typed (typed : Gap) (clause : Clause) :
    takeDeclaration? ((Written.binding gap (some typed) clause afterFrom q).text ++ s) =
      some ((Written.binding gap (some typed) clause afterFrom q).declaration, s) := by
  set behind := clause.text ++ (fromText afterFrom q ++ s) with hbehind
  have htext : (Written.binding gap (some typed) clause afterFrom q).text ++ s =
      "import".toList ++ (gap.1 ++ ("type".toList ++ (typed.1 ++ behind))) := by
    simp only [Written.text_typed, List.append_assoc, hbehind]
  have htype : (afterPrefix? "type".toList ("type".toList ++ (typed.1 ++ behind))).bind dropBlanks? =
      some behind := by
    rw [afterPrefix?_append, Option.bind_some, dropBlanks?_append typed.2.1 typed.2.2,
      hbehind, clause.trimStart_text]
  have hmark : trimStart ("type".toList ++ (typed.1 ++ behind)) = _ := trimStart_cons (by decide) _
  rw [htext, takeDeclaration?_import gap hmark, htype]
  dsimp only
  rw [hbehind, takeClause?_clause afterFrom q s clause typed]
  rfl

/-- Without the mark of a declaration of types, a clause may begin with the word `type` itself. -/
lemma takeDeclaration?_plain (clause : Clause) :
    takeDeclaration? ((Written.binding gap none clause afterFrom q).text ++ s) =
      some ((Written.binding gap none clause afterFrom q).declaration, s) := by
  have htext : (Written.binding gap none clause afterFrom q).text ++ s =
      "import".toList ++ (gap.1 ++ (clause.text ++ (fromText afterFrom q ++ s))) := by
    simp only [Written.text_plain, List.append_assoc]
  rw [htext, takeDeclaration?_import gap (clause.trimStart_text _)]
  have hclause := takeClause?_clause afterFrom q s clause gap
  cases clause with
  | default name after =>
    rw [Clause.text, List.append_assoc] at hclause ⊢
    rw [afterType_name name (endsWord_gap after _)]
    by_cases htype : name.1 = "type".toList
    · rw [if_pos htype, dropBlanks?_append after.2.1 after.2.2, trimStart_fromText]
      dsimp only
      rw [takeClause?_fromText]
      simp [Written.declaration, Clause.declaration, Written.specifier, htype]
    · have hmark : (name.1 == "type".toList) = false := by simpa using htype
      rw [if_neg htype]
      dsimp only
      rw [hclause]
      simp only [Written.declaration, Clause.declaration, Written.specifier, hmark]
      rfl
  | binding b =>
    obtain ⟨c, rest, hb, hc⟩ := b.text_eq
    have hne : c ≠ 't' := by rcases hc with rfl | rfl <;> decide
    have htype : (afterPrefix? "type".toList
        ((Clause.binding b).text ++ (fromText afterFrom q ++ s))).bind dropBlanks? = none := by
      rw [Clause.text, hb]
      exact afterType_cons hne _
    rw [htype]
    exact hclause
  | both name beforeComma afterComma b =>
    rw [Clause.text_both] at hclause ⊢
    rw [afterType_name name (endsWord_comma beforeComma _)]
    by_cases htype : name.1 = "type".toList
    · rw [if_pos htype]
      by_cases hblanks : beforeComma.1 = []
      · rw [hblanks, List.nil_append] at hclause ⊢
        rw [dropBlanks?_cons (by decide)]
        exact hclause
      · -- what seems to be the mark is the name, as the comma behind it shows
        rw [dropBlanks?_append beforeComma.2 hblanks, trimStart_cons (by decide)]
        dsimp only
        rw [takeClause?_comma, Option.none_or]
        exact hclause
    · rw [if_neg htype]
      exact hclause

end

/-- **A declaration is read back.**  What is read at the front of a declaration is what was written,
and what follows stays. -/
theorem takeDeclaration?_text (w : Written) (s : List Char) :
    takeDeclaration? (w.text ++ s) = some (w.declaration, s) := by
  match w with
  | .sideEffect gap q => exact takeDeclaration?_sideEffect gap q s
  | .binding gap none clause afterFrom q => exact takeDeclaration?_plain gap afterFrom q s clause
  | .binding gap (some typed) clause afterFrom q =>
    exact takeDeclaration?_typed gap afterFrom q s typed clause

/-- Here `type` is taken for the mark of a declaration of types, so `from` is the name. -/
example : takeDeclaration? "import type from 'x'".toList =
    some ({ defaultName := some "from", specifier := "x" }, []) := by
  decide +kernel

end ProjectCheck.Import
