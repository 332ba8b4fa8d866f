import ProjectCheck.MissingExport
import ProjectCheck.Proofs.Import.Written

/-!
# The forms of exports and declarations

What the searches for exports and declarations look for, written out as the texts that have it.

A text declares a default export where the words `export` and `default` stand in it with blanks
behind each (`hasDefaultExport_iff`); it declares the root component where `function` or `const`
stands before its name (`isRoot_iff`); and a line declares a component if it begins with a keyword
and a capitalised name, perhaps with `export` and `async` in front (`declaration?_eq_some_iff`).
The last is also how a line comes to be reported (`unexported?_eq_some_iff`).

A language knows a second form of default export, an item of an export clause (`ListsDefault`).
-/

namespace ProjectCheck.MissingExport

open ProjectCheck.Text
open ProjectCheck.Import (Blanks Gap)

/-! ## Words with blanks behind them -/

/-- A word with the blanks behind it, if it is there. -/
def wordText (word : String) : Option Gap → List Char
  | none => []
  | some gap => word.toList ++ gap.1

lemma afterWord?_append (word : String) (gap : Gap) (s : List Char) :
    afterWord? word (word.toList ++ (gap.1 ++ s)) = some (trimStart s) := by
  rw [afterWord?, afterPrefix?_append, Option.bind_some, dropBlanks?_append gap.2.1 gap.2.2]

lemma afterWord?_eq_some {word : String} {s rest : List Char} (h : afterWord? word s = some rest) :
    ∃ gap : Gap, s = word.toList ++ (gap.1 ++ rest) := by
  obtain ⟨after, hafter, hblanks⟩ := Option.bind_eq_some_iff.1 h
  obtain ⟨blanks, hblank, hne, rfl⟩ := dropBlanks?_eq_some hblanks
  exact ⟨⟨blanks, hblank, hne⟩, afterPrefix?_eq_some hafter⟩

/-- A word is not read where another character stands. -/
lemma afterWord?_cons {word : String} {a c : Char} {lead : List Char}
    (hword : word.toList = a :: lead) (hc : c ≠ a) (s : List Char) :
    afterWord? word (c :: s) = none := by
  rw [afterWord?, hword, afterPrefix?, if_neg (Ne.symm hc)]
  rfl

lemma afterOneOf?_eq_some {words : List String} {s rest : List Char} {word : String}
    (h : afterOneOf? words s = some (word, rest)) : word ∈ words ∧ s = word.toList ++ rest := by
  obtain ⟨found, hfound, hread⟩ := List.exists_of_findSome?_eq_some h
  obtain ⟨after, hafter, hpair⟩ := Option.map_eq_some_iff.1 hread
  obtain ⟨rfl, rfl⟩ := Prod.mk.inj hpair
  exact ⟨hfound, afterPrefix?_eq_some hafter⟩

/-! ## Default exports -/

/-- A default export is declared: the words `export` and `default` stand in the text, with blanks
behind each. -/
def DeclaresDefault (content : List Char) : Prop :=
  ∃ (before : List Char) (gap after : Gap) (rest : List Char),
    content = before ++ ("export".toList ++ (gap.1 ++ ("default".toList ++ (after.1 ++ rest))))

/-- An item of an export clause exports something by default. -/
def IsDefaultItem (item : List Char) : Prop :=
  ∃ (name : List Char) (gap after : Gap), name ≠ [] ∧
    trim item = name ++ (gap.1 ++ ("as".toList ++ (after.1 ++ "default".toList)))

/-- An export clause of the text has a default export among its items. -/
def ListsDefault (content : List Char) : Prop :=
  ∃ (before : List Char) (blanks : Blanks) (items after : List Char),
    beginsWord before.getLast? = true ∧ '\x7d' ∉ items ∧
    (∃ item ∈ pieces ',' items, IsDefaultItem item) ∧
    content = before ++ ("export".toList ++ (blanks.1 ++ '\x7b' :: (items ++ '\x7d' :: after)))

/-- What is searched for is a declared default export. -/
theorem hasDefaultExport_iff {content : List Char} :
    hasDefaultExport content = true ↔ DeclaresDefault content := by
  have htest (s : List Char) :
      ((do
        let rest ← afterPrefix? "default".toList (← dropBlanks? (← afterPrefix? "export".toList s))
        dropBlanks? rest) : Option (List Char)) =
      (afterWord? "export" s).bind (afterWord? "default") := by
    simp only [afterWord?, Option.bind_assoc]
    rfl
  rw [hasDefaultExport, somewhere_iff]
  constructor
  · rintro ⟨before, s, rfl, h⟩
    rw [htest] at h
    obtain ⟨rest, hrest⟩ := Option.isSome_iff_exists.1 h
    obtain ⟨middle, hexport, hdefault⟩ := Option.bind_eq_some_iff.1 hrest
    obtain ⟨gap, rfl⟩ := afterWord?_eq_some hexport
    obtain ⟨after, rfl⟩ := afterWord?_eq_some hdefault
    exact ⟨before, gap, after, rest, rfl⟩
  · rintro ⟨before, gap, after, rest, rfl⟩
    refine ⟨before, _, rfl, ?_⟩
    -- The blanks behind `export` end at `default`.
    have hstart : trimStart ("default".toList ++ (after.1 ++ rest)) =
        "default".toList ++ (after.1 ++ rest) :=
      trimStart_cons (by decide) _
    rw [htest, afterWord?_append, Option.bind_some, hstart, afterWord?_append]
    rfl

/-! ## The root component -/

/-- The root component is declared as a function or a constant. -/
def DeclaresRoot (content : List Char) : Prop :=
  ∃ (before : List Char) (keyword : String) (gap : Gap) (rest : List Char),
    beginsWord before.getLast? = true ∧ keyword ∈ ["function", "const"] ∧ endsWord rest = true ∧
    content = before ++ (keyword.toList ++ (gap.1 ++ (rootComponent.toList ++ rest)))

/-- A file is an application root: it has the name of one and declares the root component. -/
def IsApplicationRoot (path : String) (content : List Char) : Prop :=
  String.ofList (Path.lastSegment path.toList) ∈ rootFiles ∧ DeclaresRoot content

/-- The word that a keyword of the root component is read as. -/
lemma afterOneOf?_rootKeyword {keyword : String} (h : keyword ∈ ["function", "const"])
    (s : List Char) :
    afterOneOf? ["function", "const"] (keyword.toList ++ s) = some (keyword, s) := by
  simp only [List.mem_cons, List.not_mem_nil, or_false] at h
  rcases h with rfl | rfl <;> rfl

theorem declaresRoot_iff {content : List Char} :
    declaresRoot content = true ↔ DeclaresRoot content := by
  rw [declaresRoot, somewhere_iff]
  constructor
  · rintro ⟨before, s, rfl, h⟩
    obtain ⟨hbegins, htest⟩ := Bool.and_eq_true_iff.1 h
    cases hkeyword : afterOneOf? ["function", "const"] s with
    | none => simp [hkeyword] at htest
    | some read =>
      obtain ⟨keyword, afterKeyword⟩ := read
      obtain ⟨hmem, rfl⟩ := afterOneOf?_eq_some hkeyword
      cases hblanks : dropBlanks? afterKeyword with
      | none => simp [hkeyword, hblanks] at htest
      | some named =>
        obtain ⟨blanks, hblank, hne, rfl⟩ := dropBlanks?_eq_some hblanks
        cases hname : afterPrefix? rootComponent.toList named with
        | none => simp [hkeyword, hblanks, hname] at htest
        | some rest =>
          have hend : endsWord rest = true := by
            simpa [hkeyword, hblanks, hname] using htest
          obtain rfl := afterPrefix?_eq_some hname
          exact ⟨before, keyword, ⟨blanks, hblank, hne⟩, rest, hbegins, hmem, hend, rfl⟩
  · rintro ⟨before, keyword, gap, rest, hbegins, hmem, hend, rfl⟩
    have hstart : trimStart (rootComponent.toList ++ rest) = rootComponent.toList ++ rest :=
      trimStart_cons (by decide) _
    refine ⟨before, _, rfl, ?_⟩
    simp [hbegins, afterOneOf?_rootKeyword hmem, dropBlanks?_append gap.2.1 gap.2.2, hstart, hend]

theorem isRoot_iff {path : String} {content : List Char} :
    isRoot path content = true ↔ IsApplicationRoot path content := by
  rw [isRoot, Bool.and_eq_true, List.contains_iff_mem, declaresRoot_iff, IsApplicationRoot]

/-! ## Declarations of components -/

/-- A name of a component: a capital letter, and letters and digits behind it. -/
def IsComponentName (name : List Char) : Prop :=
  ∃ c rest, name = c :: rest ∧ isAsciiCapital c = true ∧ ∀ d ∈ rest, d.isAlphanum = true

lemma isBlank_of_isAsciiCapital {c : Char} (h : isAsciiCapital c = true) : isBlank c = false := by
  have hbounds : 65 ≤ c.toNat ∧ c.toNat ≤ 90 := by
    simpa [isAsciiCapital, Char.le_def, UInt32.le_iff_toNat_le] using h
  have hcapital : CodeRanges.covers [(65, 90)] c = true := by
    simp [CodeRanges.covers, hbounds]
  exact covers_eq_false_of_apart (by decide +kernel) hcapital

/-- The words that begin a declaration. -/
def declarationKeywords : List String :=
  ["function", "const", "let", "var"]

/-- A line begins with the declaration of a component. -/
def DeclaresComponent (exported : Bool) (name line : List Char) : Prop :=
  ∃ (afterExport afterAsync : Option Gap) (keyword : String) (gap : Gap) (rest : List Char),
    afterExport.isSome = exported ∧ keyword ∈ declarationKeywords ∧ IsComponentName name ∧
    (∀ c ∈ rest.head?, c.isAlphanum = false) ∧
    line = wordText "export" afterExport ++ (wordText "async" afterAsync ++
      (keyword.toList ++ (gap.1 ++ (name ++ rest))))

section

variable {keyword : String} (hkeyword : keyword ∈ declarationKeywords)

include hkeyword

lemma afterOneOf?_keyword (s : List Char) :
    afterOneOf? declarationKeywords (keyword.toList ++ s) = some (keyword, s) := by
  simp only [declarationKeywords, List.mem_cons, List.not_mem_nil, or_false] at hkeyword
  rcases hkeyword with rfl | rfl | rfl | rfl <;> rfl

/-- A keyword begins with another character than the words that may stand in front of it. -/
lemma exists_keyword_eq_cons :
    ∃ c rest, keyword.toList = c :: rest ∧ isBlank c = false ∧ c ≠ 'e' ∧ c ≠ 'a' := by
  simp only [declarationKeywords, List.mem_cons, List.not_mem_nil, or_false] at hkeyword
  rcases hkeyword with rfl | rfl | rfl | rfl <;>
    exact ⟨_, _, rfl, by decide, by decide, by decide⟩

lemma afterWord?_async (afterAsync : Option Gap) (s : List Char) :
    (afterWord? "async" (wordText "async" afterAsync ++ (keyword.toList ++ s))).getD
      (wordText "async" afterAsync ++ (keyword.toList ++ s)) = keyword.toList ++ s := by
  obtain ⟨c, rest, hcons, hblank, -, ha⟩ := exists_keyword_eq_cons hkeyword
  rw [hcons, List.cons_append]
  cases afterAsync with
  | none =>
    rw [wordText, List.nil_append, afterWord?_cons (by rfl) ha]
    rfl
  | some gap =>
    rw [wordText, List.append_assoc, afterWord?_append, trimStart_cons hblank]
    rfl

lemma afterWord?_export (afterExport afterAsync : Option Gap) (s : List Char) :
    afterWord? "export"
        (wordText "export" afterExport ++ (wordText "async" afterAsync ++ (keyword.toList ++ s))) =
      if afterExport.isSome then some (wordText "async" afterAsync ++ (keyword.toList ++ s))
      else none := by
  have hcons : ∃ c rest, wordText "async" afterAsync ++ (keyword.toList ++ s) = c :: rest ∧
      isBlank c = false ∧ c ≠ 'e' := by
    cases afterAsync with
    | none =>
      obtain ⟨c, rest, hcons, hblank, he, -⟩ := exists_keyword_eq_cons hkeyword
      exact ⟨c, rest ++ s, by rw [hcons]; rfl, hblank, he⟩
    | some gap => exact ⟨'a', _, rfl, by decide, by decide⟩
  obtain ⟨c, rest, hcons, hblank, he⟩ := hcons
  rw [hcons]
  cases afterExport with
  | none => exact afterWord?_cons (by rfl) he _
  | some gap =>
    rw [wordText, List.append_assoc, afterWord?_append, trimStart_cons hblank]
    rfl

end

/-- What `afterWord?` leaves, with the word that it dropped put back. -/
lemma exists_wordText_append (word : String) (s : List Char) :
    ∃ gap : Option Gap, gap.isSome = (afterWord? word s).isSome ∧
      s = wordText word gap ++ (afterWord? word s).getD s := by
  cases h : afterWord? word s with
  | none => exact ⟨none, rfl, rfl⟩
  | some rest =>
    obtain ⟨gap, hs⟩ := afterWord?_eq_some h
    refine ⟨some gap, rfl, ?_⟩
    rw [wordText, Option.getD_some, List.append_assoc]
    exact hs

/-- A line is read as the declaration that it begins with. -/
theorem declaration?_eq_some_iff {line : List Char} {declared : ComponentDeclaration} :
    declaration? line = some declared ↔
      DeclaresComponent declared.exported declared.name.toList line := by
  constructor
  · intro h
    obtain ⟨afterExport, hexported, hline⟩ := exists_wordText_append "export" line
    obtain ⟨afterAsync, -, hbody⟩ :=
      exists_wordText_append "async" ((afterWord? "export" line).getD line)
    obtain ⟨⟨keyword, afterKeyword⟩, hkeyword, hread⟩ := Option.bind_eq_some_iff.1 h
    obtain ⟨named, hblanks, hname⟩ := Option.bind_eq_some_iff.1 hread
    obtain ⟨hmem, hafter⟩ := afterOneOf?_eq_some hkeyword
    obtain ⟨blanks, hblank, hne, rfl⟩ := dropBlanks?_eq_some hblanks
    cases named with
    | nil => contradiction
    | cons c rest =>
      dsimp only at hname
      split at hname
      · rename_i hcapital
        obtain rfl := Option.some.inj hname
        refine ⟨afterExport, afterAsync, keyword, ⟨blanks, hblank, hne⟩,
          rest.dropWhile Char.isAlphanum, hexported, hmem, ?_, ?_, ?_⟩
        · exact ⟨c, rest.takeWhile Char.isAlphanum, String.toList_ofList, hcapital,
            fun d hd => List.mem_takeWhile_imp hd⟩
        · intro d hd
          have hstop := List.head?_dropWhile_not Char.isAlphanum rest
          rw [hd] at hstop
          simpa using hstop
        · rw [String.toList_ofList, List.cons_append, List.takeWhile_append_dropWhile, ← hafter,
            ← hbody]
          exact hline
      · contradiction
  · obtain ⟨exported, name⟩ := declared
    rintro ⟨afterExport, afterAsync, keyword, gap, rest, hexported, hkeyword,
      ⟨c, letters, hname, hcapital, hletters⟩, hrest, rfl⟩
    obtain rfl : afterExport.isSome = exported := hexported
    set s := gap.1 ++ (name.toList ++ rest) with hs
    have hexport := afterWord?_export hkeyword afterExport afterAsync s
    have hunprefixed : (afterWord? "export" (wordText "export" afterExport ++
        (wordText "async" afterAsync ++ (keyword.toList ++ s)))).getD
          (wordText "export" afterExport ++
            (wordText "async" afterAsync ++ (keyword.toList ++ s))) =
        wordText "async" afterAsync ++ (keyword.toList ++ s) := by
      rw [hexport]
      cases afterExport <;> rfl
    have hbody := afterWord?_async hkeyword afterAsync s
    have hblanks : dropBlanks? s = some (c :: (letters ++ rest)) := by
      rw [hs, hname, dropBlanks?_append gap.2.1 gap.2.2, List.cons_append,
        trimStart_cons (isBlank_of_isAsciiCapital hcapital)]
    refine Option.bind_eq_some_iff.2 ⟨(keyword, s), ?_,
      Option.bind_eq_some_iff.2 ⟨c :: (letters ++ rest), hblanks, ?_⟩⟩
    · rw [hunprefixed, hbody]
      exact afterOneOf?_keyword hkeyword s
    · dsimp only
      rw [if_pos hcapital, takeWhile_append_of_stops hletters hrest, ← hname, String.ofList_toList,
        hexport]
      cases afterExport <;> rfl

/-! ## Lines that are reported -/

/-- A line is reported for an entry component that it declares without `export` and that needs a
report. -/
theorem unexported?_eq_some_iff {settled : List String} {line : List Char} {name : String} :
    unexported? settled line = some name ↔
      DeclaresComponent false name.toList line ∧ name ∈ entryComponents ∧ name ∉ settled := by
  constructor
  · intro h
    obtain ⟨declared, hdeclared, hkept⟩ := Option.bind_eq_some_iff.1 h
    have hform := declaration?_eq_some_iff.1 hdeclared
    split at hkept
    · contradiction
    · rename_i hreport
      obtain rfl := Option.some.inj hkept
      simp only [Bool.or_eq_true, Bool.not_eq_true', not_or, Bool.not_eq_true, Bool.not_eq_false,
        List.contains_iff_mem] at hreport
      obtain ⟨⟨hexported, hentry⟩, hsettled⟩ := hreport
      rw [hexported] at hform
      exact ⟨hform, hentry, by simpa using hsettled⟩
  · rintro ⟨hform, hentry, hsettled⟩
    refine Option.bind_eq_some_iff.2 ⟨⟨false, name⟩, declaration?_eq_some_iff.2 hform, ?_⟩
    simp [hentry, hsettled]

end ProjectCheck.MissingExport
