import ProjectCheck.Proofs.MissingExport.Silence

/-!
# The report about missing exports

In a file without a declared default export every entry component that needs a report gets one, at
the first line that declares it without `export` (`mem_findingsFrom_iff`); an application root gets
its critical finding behind all others (`find_reports_first_declarations`).

A component needs no report if it is the local name of an item of an export clause.  The search for
clauses goes on behind each clause it finds, so of clauses that end at the same brace it finds the
longest only, and it misses no other (`mem_contents_iff`): a clause has one closing brace, at its
end, so clauses that end at different braces do not overlap.
-/

namespace ProjectCheck.MissingExport

open ProjectCheck.Text
open ProjectCheck.Import (Blanks)

/-! ## Export clauses -/

/-- The word `type` with the blanks behind it, if it is there. -/
def typedText : Option Blanks → List Char
  | none => []
  | some blanks => "type".toList ++ blanks.1

/-- An export clause with its items, perhaps one of types only. -/
def IsClause (text items : List Char) : Prop :=
  ∃ (blanks : Blanks) (typed : Option Blanks), '\x7d' ∉ items ∧
    text = "export".toList ++ (blanks.1 ++ (typedText typed ++ '\x7b' :: (items ++ ['\x7d'])))

/-- No clause begins in `before` and ends where `text` does. -/
def NoneLonger (before text : List Char) : Prop :=
  ∀ x y items, before = x ++ y → y ≠ [] → ¬ IsClause (y ++ text) items

/-- A text holds an export clause with certain items.  Of clauses that end at the same brace only the
longest counts. -/
def HoldsClause (s items : List Char) : Prop :=
  ∃ before text after, s = before ++ (text ++ after) ∧ IsClause text items ∧ NoneLonger before text

/-- A name is the local name of an item of an export clause. -/
def ListsName (content name : List Char) : Prop :=
  name ≠ [] ∧ ∃ items, HoldsClause content items ∧ ∃ item ∈ pieces ',' items, localName item = name

section

variable {text items others s rest : List Char}

lemma takeExportClause?_append (h : IsClause text items) (rest : List Char) :
    takeExportClause? (text ++ rest) = some (items, rest) := by
  obtain ⟨blanks, typed, hitems, rfl⟩ := h
  have hbrace : ∀ t, trimStart ('\x7b' :: t) = '\x7b' :: t := trimStart_cons (by decide)
  have hopening : trimStart (dropLead "type".toList (trimStart (blanks.1 ++
      (typedText typed ++ '\x7b' :: (items ++ '\x7d' :: rest))))) =
        '\x7b' :: (items ++ '\x7d' :: rest) := by
    rw [trimStart_blank_append blanks.2]
    cases typed with
    | none => rw [typedText, List.nil_append, hbrace, dropLead]; exact hbrace _
    | some gap =>
      have htype : ∀ t, trimStart ("type".toList ++ t) = "type".toList ++ t :=
        fun t => trimStart_cons (by decide) _
      rw [typedText, List.append_assoc, htype, dropLead, afterPrefix?_append, Option.getD_some,
        trimStart_blank_append gap.2, hbrace]
  have hkept := bne_of_notMem hitems
  have hstop : ∀ c ∈ ('\x7d' :: rest).head?, (c != '\x7d') = false := by simp
  have htake := takeWhile_append_of_stops hkept hstop
  have hdrop := dropWhile_append_of_stops hkept hstop
  have hword : ("export".toList ++ (blanks.1 ++ (typedText typed ++
      '\x7b' :: (items ++ ['\x7d'])))) ++ rest = "export".toList ++ (blanks.1 ++
        (typedText typed ++ '\x7b' :: (items ++ '\x7d' :: rest))) := by simp
  have hitem : afterPrefix? ['\x7b'] ('\x7b' :: (items ++ '\x7d' :: rest)) =
      some (items ++ '\x7d' :: rest) := rfl
  rw [takeExportClause?, hword, afterPrefix?_append]
  simp only [Option.bind_eq_bind, Option.bind_some, hopening, hitem, htake, hdrop]
  rfl

/-- A text begins with the blanks that trimming drops. -/
lemma exists_blanks (s : List Char) : ∃ blanks : Blanks, s = blanks.1 ++ trimStart s :=
  ⟨⟨s.takeWhile isBlank, fun _ => List.mem_takeWhile_imp⟩, List.takeWhile_append_dropWhile.symm⟩

lemma takeExportClause?_eq_some (h : takeExportClause? s = some (items, rest)) :
    ∃ text, IsClause text items ∧ s = text ++ rest := by
  simp only [takeExportClause?, Option.bind_eq_bind, Option.bind_eq_some_iff] at h
  obtain ⟨afterExport, hexport, inside, hinside, hclosing⟩ := h
  obtain ⟨blanks, hblanks⟩ := exists_blanks afterExport
  obtain ⟨typed, htyped⟩ : ∃ typed : Option Blanks,
      trimStart afterExport = typedText typed ++ '\x7b' :: inside := by
    have hopening := afterPrefix?_eq_some hinside
    cases htype : afterPrefix? "type".toList (trimStart afterExport) with
    | none =>
      rw [dropLead, htype, Option.getD_none, trimStart, trimStart,
        List.dropWhile_idempotent] at hopening
      exact ⟨none, hopening⟩
    | some afterType =>
      rw [dropLead, htype, Option.getD_some] at hopening
      obtain ⟨gap, hgap⟩ := exists_blanks afterType
      refine ⟨some gap, ?_⟩
      rw [afterPrefix?_eq_some htype, hgap, hopening, typedText, List.append_assoc]
      rfl
  split at hclosing
  · contradiction
  · rename_i c after hdrop
    simp only [Option.pure_def, Option.some.injEq, Prod.mk.injEq] at hclosing
    obtain ⟨rfl, rfl⟩ := hclosing
    obtain rfl : c = '\x7d' := by
      have hstop := List.head?_dropWhile_not (· != '\x7d') inside
      rw [hdrop] at hstop
      simpa using hstop
    have hitems : '\x7d' ∉ inside.takeWhile (· != '\x7d') := by
      intro hmem
      simpa using List.mem_takeWhile_imp hmem
    refine ⟨_, ⟨blanks, typed, hitems, rfl⟩, ?_⟩
    have hsplit : inside = inside.takeWhile (· != '\x7d') ++ '\x7d' :: after := by
      rw [← hdrop, List.takeWhile_append_dropWhile]
    rw [afterPrefix?_eq_some hexport, hblanks, htyped]
    conv_lhs => rw [hsplit]
    simp

/-- The closing brace of a clause is its only one. -/
lemma IsClause.exists_init (h : IsClause text items) :
    ∃ init, text = init ++ ['\x7d'] ∧ '\x7d' ∉ init := by
  obtain ⟨blanks, typed, hitems, rfl⟩ := h
  have hblank : ∀ blanks : Blanks, '\x7d' ∉ blanks.1 := by
    intro blanks hmem
    exact absurd (blanks.2 _ hmem) (by decide)
  have htyped : '\x7d' ∉ typedText typed := by
    cases typed with
    | none => exact List.not_mem_nil
    | some gap => simp [typedText, hblank gap]
  refine ⟨"export".toList ++ (blanks.1 ++ (typedText typed ++ '\x7b' :: items)), by simp, ?_⟩
  simp [hblank blanks, htyped, hitems]

/-- Where a clause is cut, its closing brace is at the end of the second part only. -/
lemma IsClause.closing {front : List Char} {last : Char} {before : List Char}
    (h : IsClause (before ++ front.concat last) items) : last = '\x7d' ∧ '\x7d' ∉ front := by
  obtain ⟨init, hinit, hbrace⟩ := h.exists_init
  have hsplit : (before ++ front) ++ [last] = init ++ ['\x7d'] := by simpa using hinit
  obtain ⟨rfl, hlast⟩ := List.append_inj' hsplit rfl
  exact ⟨(List.cons.inj hlast).1, fun hmem => hbrace (List.mem_append_right before hmem)⟩

lemma IsClause.brace_notMem {init : List Char} (h : IsClause (init ++ ['\x7d']) items) :
    '\x7d' ∉ init := by
  obtain ⟨other, hother, hbrace⟩ := h.exists_init
  rwa [List.append_cancel_right hother]

/-- Two texts that go on differently behind their first brace are the same up to it. -/
lemma eq_of_append_brace_eq {a b : List Char} (ha : '\x7d' ∉ a) (hb : '\x7d' ∉ b)
    {x y : List Char} (h : a ++ ['\x7d'] ++ x = b ++ ['\x7d'] ++ y) : a = b := by
  have htake := congrArg (List.takeWhile (· != '\x7d')) h
  rwa [List.append_assoc, List.append_assoc,
    takeWhile_append_of_stops (bne_of_notMem ha) (by simp),
    takeWhile_append_of_stops (bne_of_notMem hb) (by simp)] at htake

lemma IsClause.items_unique (h : IsClause text items) (ho : IsClause text others) :
    items = others := by
  have hread := takeExportClause?_append h []
  rw [takeExportClause?_append ho []] at hread
  exact (congrArg Prod.fst (Option.some.inj hread)).symm

/-! ## The search for clauses -/

lemma noneLonger_nil (text : List Char) : NoneLonger [] text :=
  fun _ _ _ hxy hy => absurd (List.append_eq_nil_iff.1 hxy.symm).2 hy

lemma not_holdsClause_nil : ¬ HoldsClause [] items := by
  rintro ⟨before, text, after, hs, hclause, -⟩
  obtain ⟨init, rfl, -⟩ := hclause.exists_init
  simp at hs

/-- Where no clause begins, a text holds those that the rest of it holds. -/
lemma holdsClause_cons_iff {c : Char} (h : takeExportClause? (c :: s) = none) :
    HoldsClause (c :: s) items ↔ HoldsClause s items := by
  have hnone : ∀ text others rest, IsClause text others → c :: s ≠ text ++ rest := by
    rintro text others rest hclause hs
    rw [hs, takeExportClause?_append hclause] at h
    contradiction
  constructor
  · rintro ⟨before, text, after, hs, hclause, hlongest⟩
    cases before with
    | nil => exact absurd hs (hnone text items after hclause)
    | cons d before =>
      obtain ⟨rfl, rfl⟩ := List.cons.inj hs
      refine ⟨before, text, after, rfl, hclause, ?_⟩
      rintro x y others rfl hy
      exact hlongest (c :: x) y others rfl hy
  · rintro ⟨before, text, after, rfl, hclause, hlongest⟩
    refine ⟨c :: before, text, after, rfl, hclause, ?_⟩
    rintro x y others hxy hy hlonger
    cases x with
    | nil =>
      obtain rfl : c :: before = y := hxy
      exact hnone _ _ after hlonger (by simp)
    | cons d x => exact hlongest x y others (List.cons.inj hxy).2 hy hlonger

/-- Behind a clause, a text holds besides it the clauses that the rest holds. -/
lemma holdsClause_append_iff (h : IsClause text others) :
    HoldsClause (text ++ rest) items ↔ items = others ∨ HoldsClause rest items := by
  constructor
  · rintro ⟨before, found, after, hs, hclause, hlongest⟩
    rcases List.append_eq_append_iff.1 hs with ⟨between, rfl, hrest⟩ | ⟨ending, rfl, hfound⟩
    · refine Or.inr ⟨between, found, after, hrest, hclause, ?_⟩
      rintro x y its rfl hy
      exact hlongest (text ++ x) y its (by simp) hy
    · -- The second clause begins in the first, so both end at the one brace of the first.
      rcases List.eq_nil_or_concat ending with rfl | ⟨front, last, rfl⟩
      · exact Or.inr ⟨[], found, after, hfound.symm, hclause, noneLonger_nil found⟩
      · obtain ⟨hlast, hfront⟩ := h.closing
        obtain ⟨init, rfl, hinit⟩ := hclause.exists_init
        obtain rfl : init = front :=
          eq_of_append_brace_eq hinit hfront (by simpa [hlast] using hfound)
        rcases eq_or_ne before [] with rfl | hne
        · exact Or.inl (hclause.items_unique (by simpa [hlast] using h))
        · exact absurd (by simpa [hlast] using h) (hlongest [] before others rfl hne)
  · rintro (rfl | ⟨before, found, after, rfl, hclause, hlongest⟩)
    · exact ⟨[], text, rest, rfl, h, noneLonger_nil text⟩
    · refine ⟨text ++ before, found, after, by simp, hclause, ?_⟩
      rintro x y its hxy hy hlonger
      rcases List.append_eq_append_iff.1 hxy with ⟨between, rfl, hbefore⟩ | ⟨ending, rfl, rfl⟩
      · exact hlongest between y its hbefore hy hlonger
      · -- A clause that begins in the first one would have the brace of the first inside.
        rcases List.eq_nil_or_concat ending with rfl | ⟨front, last, rfl⟩
        · exact hlongest [] before its rfl hy hlonger
        · obtain ⟨hlast, -⟩ := h.closing
          obtain ⟨init, rfl, -⟩ := hclause.exists_init
          rw [← List.append_assoc] at hlonger
          have hinside := hlonger.brace_notMem
          simp [hlast] at hinside

/-- **What the search for clauses finds.** -/
lemma mem_contents_iff {before : List Char} :
    items ∈ (findsAfter (fun _ s => takeExportClause? s) before s).map Find.content ↔
      HoldsClause s items := by
  induction hlen : s.length using Nat.strong_induction_on generalizing s before with
  | _ n ih =>
    subst hlen
    cases s with
    | nil =>
      rw [findsAfter]
      exact iff_of_false List.not_mem_nil not_holdsClause_nil
    | cons c s =>
      cases hread : takeExportClause? (c :: s) with
      | none =>
        rw [findsAfter, hread, holdsClause_cons_iff hread]
        exact ih s.length (by simp) rfl
      | some found =>
        obtain ⟨others, rest⟩ := found
        obtain ⟨text, hclause, htext⟩ := takeExportClause?_eq_some hread
        have hne : text ≠ [] := by
          obtain ⟨init, rfl, -⟩ := hclause.exists_init
          simp
        have hshorter : rest.length < (c :: s).length := by
          rw [htext, List.length_append]
          have := List.length_pos_iff.2 hne
          omega
        rw [htext, findsAfter_of_read before hne fun _ => takeExportClause?_append hclause rest,
          holdsClause_append_iff hclause, List.map_cons, List.mem_cons, ih _ hshorter rfl]

end

/-- The names that are exported in clauses are the local names of their items. -/
theorem mem_exportedNames_iff {content name : List Char} :
    name ∈ exportedNames content ↔ ListsName content name := by
  rw [exportedNames, finds, List.mem_filter, bne_iff_ne, and_comm, ListsName, List.mem_flatMap]
  refine and_congr_right fun _ => ?_
  constructor
  · rintro ⟨found, hfound, hname⟩
    obtain ⟨item, hitem, rfl⟩ := List.mem_map.1 hname
    exact ⟨found.content, mem_contents_iff.1 (List.mem_map_of_mem hfound), item, hitem, rfl⟩
  · rintro ⟨items, hholds, item, hitem, rfl⟩
    obtain ⟨found, hfound, rfl⟩ := List.mem_map.1 (mem_contents_iff.2 hholds)
    exact ⟨found, hfound, List.mem_map_of_mem hitem⟩

instance (content name : List Char) : Decidable (ListsName content name) :=
  decidable_of_iff _ mem_exportedNames_iff

/-! ## Findings about lines -/

instance (exported : Bool) (name line : List Char) :
    Decidable (DeclaresComponent exported name line) :=
  decidable_of_iff (declaration? line = some ⟨exported, String.ofList name⟩) <| by
    rw [declaration?_eq_some_iff, String.toList_ofList]

/-- A line declares a component without `export`, and no line before it does. -/
structure DeclaredFirst (name : String) (before : List (List Char)) (line : List Char) : Prop where
  declares : DeclaresComponent false name.toList line
  first : ∀ l ∈ before, ¬ DeclaresComponent false name.toList l

/-- An entry component that needs a report is declared on a line with certain lines before it. -/
structure ReportedAt (settled : List String) (lines : List (List Char)) (name : String)
    (before : List (List Char)) (line : List Char) : Prop where
  stands : before ++ [line] <+: lines
  declared : DeclaredFirst name before line
  entry : name ∈ entryComponents
  notSettled : name ∉ settled

/-- A finding is about a component. -/
def IsAbout (d : Diagnostic) (name : String) : Prop :=
  d.subject = .missingImport (.text name)

/-- The first of two findings is about an earlier line than the second. -/
def LineBefore (d e : Diagnostic) : Prop :=
  ∃ m n : Nat, d.line = .ofNat m ∧ e.line = .ofNat n ∧ m < n

lemma isAbout_missingExport (path name : String) (number : Nat) (line : List Char) :
    IsAbout (missingExport path name number line) name :=
  rfl

lemma IsAbout.unique {d : Diagnostic} {name other : String} (h : IsAbout d name)
    (ho : IsAbout d other) : name = other :=
  Value.text.inj (Subject.missingImport.inj (h.symm.trans ho))

section

variable {path name : String} {settled : List String} {number : Nat}
  {lines before : List (List Char)} {line : List Char}

/-- A component is reported at the first of some lines if that line is to be reported for it, and
else where it is reported among the others. -/
lemma reportedAt_cons_iff {first : List Char} :
    ReportedAt settled (first :: lines) name before line ↔
      (before = [] ∧ line = first ∧ unexported? settled first = some name) ∨
        ∃ passed, before = first :: passed ∧ unexported? settled first ≠ some name ∧
          ReportedAt settled lines name passed line := by
  constructor
  · rintro ⟨hstands, hdeclared, hentry, hsettled⟩
    cases before with
    | nil =>
      obtain rfl := (List.cons_prefix_cons.1 hstands).1
      exact Or.inl ⟨rfl, rfl, unexported?_eq_some_iff.2 ⟨hdeclared.declares, hentry, hsettled⟩⟩
    | cons l passed =>
      obtain ⟨rfl, hrest⟩ := List.cons_prefix_cons.1 hstands
      obtain ⟨hnot, hpassed⟩ := List.forall_mem_cons.1 hdeclared.first
      refine Or.inr ⟨passed, rfl, fun h => hnot (unexported?_eq_some_iff.1 h).1, hrest, ?_, hentry,
        hsettled⟩
      exact ⟨hdeclared.declares, hpassed⟩
  · rintro (⟨rfl, rfl, h⟩ | ⟨passed, rfl, hnot, hstands, hdeclared, hentry, hsettled⟩)
    · obtain ⟨hdeclares, hentry, hsettled⟩ := unexported?_eq_some_iff.1 h
      exact ⟨⟨lines, rfl⟩, ⟨hdeclares, by simp⟩, hentry, hsettled⟩
    · refine ⟨List.cons_prefix_cons.2 ⟨rfl, hstands⟩, ⟨hdeclared.declares, ?_⟩, hentry, hsettled⟩
      refine List.forall_mem_cons.2 ⟨fun h => hnot ?_, hdeclared.first⟩
      exact unexported?_eq_some_iff.2 ⟨h, hentry, hsettled⟩

lemma reportedAt_settled_cons_iff {reported : String} :
    ReportedAt (reported :: settled) lines name before line ↔
      some reported ≠ some name ∧ ReportedAt settled lines name before line := by
  constructor
  · rintro ⟨hstands, hdeclared, hentry, hsettled⟩
    obtain ⟨hne, hsettled⟩ := not_or.1 (List.mem_cons.not.1 hsettled)
    exact ⟨fun h => hne (Option.some.inj h).symm, hstands, hdeclared, hentry, hsettled⟩
  · rintro ⟨hne, hstands, hdeclared, hentry, hsettled⟩
    refine ⟨hstands, hdeclared, hentry, fun h => ?_⟩
    rcases List.mem_cons.1 h with rfl | h
    · exact hne rfl
    · exact hsettled h

/-- **What is found about lines.**  Each entry component that needs a report gets it at the first line
that declares it, and there are no other findings. -/
lemma mem_findingsFrom_iff {d : Diagnostic} :
    d ∈ findingsFrom path settled number lines ↔
      ∃ name before line, ReportedAt settled lines name before line ∧
        d = missingExport path name (number + before.length) line := by
  induction lines generalizing settled number with
  | nil =>
    refine iff_of_false List.not_mem_nil ?_
    rintro ⟨name, before, line, ⟨hstands, -, -, -⟩, -⟩
    simp at hstands
  | cons first lines ih =>
    -- The findings behind the first line, with their numbers counted from the first line on.
    have hnumber : ∀ passed : List (List Char),
        number + (first :: passed).length = number + 1 + passed.length := by
      intro passed
      rw [List.length_cons]
      omega
    have hrest : (∃ name before line, ReportedAt settled (first :: lines) name before line ∧
          d = missingExport path name (number + before.length) line) ↔
        (∃ name, unexported? settled first = some name ∧ d = missingExport path name number first) ∨
          ∃ name passed line, unexported? settled first ≠ some name ∧
            ReportedAt settled lines name passed line ∧
              d = missingExport path name (number + 1 + passed.length) line := by
      simp only [reportedAt_cons_iff]
      constructor
      · rintro ⟨name, before, line, ⟨rfl, rfl, h⟩ | ⟨passed, rfl, hnot, hline⟩, rfl⟩
        · exact Or.inl ⟨name, h, rfl⟩
        · exact Or.inr ⟨name, passed, line, hnot, hline, by rw [hnumber]⟩
      · rintro (⟨name, h, rfl⟩ | ⟨name, passed, line, hnot, hline, rfl⟩)
        · exact ⟨name, [], first, Or.inl ⟨rfl, rfl, h⟩, rfl⟩
        · exact ⟨name, first :: passed, line, Or.inr ⟨passed, rfl, hnot, hline⟩, by rw [hnumber]⟩
    rw [hrest, findingsFrom]
    cases unexported? settled first with
    | none => simp [ih]
    | some reported => simp [ih, reportedAt_settled_cons_iff, and_assoc]

/-- Findings about lines are about different components, and they are in the order of the lines. -/
lemma pairwise_findingsFrom (path : String) (settled : List String) (number : Nat)
    (lines : List (List Char)) :
    (findingsFrom path settled number lines).Pairwise fun d e =>
      d.subject ≠ e.subject ∧ LineBefore d e := by
  induction lines generalizing settled number with
  | nil => exact List.Pairwise.nil
  | cons first lines ih =>
    rw [findingsFrom]
    split
    · exact ih settled (number + 1)
    · rename_i reported _
      refine List.pairwise_cons.2 ⟨fun e he => ?_, ih _ _⟩
      obtain ⟨name, before, line, hline, rfl⟩ := mem_findingsFrom_iff.1 he
      have hne : reported ≠ name := by
        rintro rfl
        exact hline.notSettled List.mem_cons_self
      refine ⟨fun hsubject => hne (IsAbout.unique (isAbout_missingExport _ _ _ _) hsubject), ?_⟩
      exact ⟨number, number + 1 + before.length, rfl, rfl, by omega⟩

end

/-- Where a component is declared, some line is the first that declares it. -/
lemma exists_declaredFirst {name : String} {lines : List (List Char)}
    (h : ∃ line ∈ lines, DeclaresComponent false name.toList line) :
    ∃ before line, before ++ [line] <+: lines ∧ DeclaredFirst name before line := by
  induction lines with
  | nil => simp at h
  | cons first lines ih =>
    by_cases hfirst : DeclaresComponent false name.toList first
    · exact ⟨[], first, ⟨lines, rfl⟩, hfirst, by simp⟩
    · obtain ⟨line, hmem, hline⟩ := h
      rcases List.mem_cons.1 hmem with rfl | hmem
      · exact absurd hline hfirst
      · obtain ⟨before, line, hstands, hdeclared⟩ := ih ⟨line, hmem, hline⟩
        exact ⟨first :: before, line, List.cons_prefix_cons.2 ⟨rfl, hstands⟩, hdeclared.declares,
          List.forall_mem_cons.2 ⟨hfirst, hdeclared.first⟩⟩

/-! ## Findings about a file -/

/-- The findings about a file are those about its lines, where the names in `settled` need no report,
and the closing ones: the critical finding about an application root, or none. -/
structure MadeOf (path content : String) (settled : List String) (closing : List Diagnostic) :
    Prop where
  find_eq : find path content =
    findingsFrom path settled 1 (pieces '\n' content.toList) ++ closing
  settled_iff : ∀ name, name ∈ settled ↔ ListsName content.toList name.toList ∨
    IsApplicationRoot path content.toList ∧ name = rootComponent
  closing_cases : IsApplicationRoot path content.toList ∧ closing = [missingRootExport path] ∨
    ¬ IsApplicationRoot path content.toList ∧ closing = []

variable {path content : String}

lemma exists_madeOf (path : String) (hdefault : ¬ DeclaresDefault content.toList) :
    ∃ settled closing, MadeOf path content settled closing := by
  have hlisted : ∀ name, name ∈ (exportedNames content.toList).map String.ofList ↔
      ListsName content.toList name.toList := by
    intro name
    rw [← mem_exportedNames_iff, List.mem_map]
    constructor
    · rintro ⟨letters, hletters, rfl⟩
      rwa [String.toList_ofList]
    · intro h
      exact ⟨name.toList, h, String.ofList_toList⟩
  by_cases hroot : IsApplicationRoot path content.toList
  · refine ⟨_, _, find_of_root hdefault hroot, fun name => ?_, Or.inl ⟨hroot, rfl⟩⟩
    rw [List.mem_cons, hlisted]
    simp [hroot, or_comm]
  · refine ⟨(exportedNames content.toList).map String.ofList, [], ?_, fun name => ?_,
      Or.inr ⟨hroot, rfl⟩⟩
    · rw [find_of_not_root hdefault hroot, List.append_nil]
    · rw [hlisted]
      simp [hroot]

namespace MadeOf

variable {settled : List String} {closing : List Diagnostic} {d : Diagnostic} {name : String}
  (h : MadeOf path content settled closing)

include h

lemma eq_of_mem_closing (hd : d ∈ closing) :
    IsApplicationRoot path content.toList ∧ d = missingRootExport path := by
  rcases h.closing_cases with ⟨hroot, rfl⟩ | ⟨-, rfl⟩
  · exact ⟨hroot, List.mem_singleton.1 hd⟩
  · contradiction

lemma mem_find_iff : d ∈ find path content ↔
    (∃ name before line, ReportedAt settled (pieces '\n' content.toList) name before line ∧
      d = missingExport path name (before.length + 1) line) ∨
        IsApplicationRoot path content.toList ∧ d = missingRootExport path := by
  rw [h.find_eq, List.mem_append, mem_findingsFrom_iff]
  simp only [Nat.add_comm 1]
  refine or_congr_right ⟨fun hd => h.eq_of_mem_closing hd, ?_⟩
  rintro ⟨hroot, rfl⟩
  rcases h.closing_cases with ⟨-, rfl⟩ | ⟨hnot, -⟩
  · exact List.mem_singleton_self _
  · exact absurd hroot hnot

/-- No finding about a line is about the component of an application root. -/
lemma not_isAbout_root (hroot : IsApplicationRoot path content.toList)
    (hd : d ∈ findingsFrom path settled 1 (pieces '\n' content.toList)) :
    ¬ IsAbout d rootComponent := by
  intro habout
  obtain ⟨name, before, line, hline, rfl⟩ := mem_findingsFrom_iff.1 hd
  have hname := IsAbout.unique (isAbout_missingExport _ _ _ _) habout
  exact hline.notSettled ((h.settled_iff name).2 (Or.inr ⟨hroot, hname⟩))

lemma exists_isAbout (hd : d ∈ find path content) : ∃ name ∈ entryComponents, IsAbout d name := by
  rcases h.mem_find_iff.1 hd with ⟨name, before, line, hline, rfl⟩ | ⟨-, rfl⟩
  · exact ⟨name, hline.entry, rfl⟩
  · exact ⟨rootComponent, by decide, rfl⟩

lemma pairwise_find : (find path content).Pairwise fun d e => d.subject ≠ e.subject := by
  rw [h.find_eq, List.pairwise_append]
  refine ⟨(pairwise_findingsFrom _ _ _ _).imp And.left, ?_, fun d hd e he hsubject => ?_⟩
  · rcases h.closing_cases with ⟨-, rfl⟩ | ⟨-, rfl⟩ <;> simp
  · obtain ⟨hroot, rfl⟩ := h.eq_of_mem_closing he
    exact h.not_isAbout_root hroot hd hsubject

lemma pairwise_high : ((find path content).filter (·.severity = .high)).Pairwise LineBefore := by
  have hclosing : closing.filter (·.severity = .high) = [] := by
    rw [List.filter_eq_nil_iff]
    intro d hd
    obtain ⟨-, rfl⟩ := h.eq_of_mem_closing hd
    simp [missingRootExport]
  rw [h.find_eq, List.filter_append, hclosing, List.append_nil]
  exact ((pairwise_findingsFrom _ _ _ _).imp And.right).filter _

lemma isAbout_iff (hentry : name ∈ entryComponents)
    (hname : name = rootComponent → ¬ IsApplicationRoot path content.toList) :
    (∃ d ∈ find path content, IsAbout d name) ↔
      (∃ line ∈ pieces '\n' content.toList, DeclaresComponent false name.toList line) ∧
        ¬ ListsName content.toList name.toList := by
  have hsettled : name ∈ settled ↔ ListsName content.toList name.toList := by
    rw [h.settled_iff]
    exact or_iff_left fun hroot => hname hroot.2 hroot.1
  constructor
  · rintro ⟨d, hd, habout⟩
    rcases h.mem_find_iff.1 hd with ⟨other, before, line, hline, rfl⟩ | ⟨hroot, rfl⟩
    · obtain rfl := IsAbout.unique (isAbout_missingExport _ _ _ _) habout
      refine ⟨⟨line, hline.stands.subset (by simp), hline.declared.declares⟩, ?_⟩
      exact fun hlisted => hline.notSettled (hsettled.2 hlisted)
    · exact absurd hroot (hname (IsAbout.unique habout rfl))
  · rintro ⟨hdeclared, hlisted⟩
    obtain ⟨before, line, hstands, hfirst⟩ := exists_declaredFirst hdeclared
    have hline : ReportedAt settled (pieces '\n' content.toList) name before line :=
      ⟨hstands, hfirst, hentry, fun hmem => hlisted (hsettled.1 hmem)⟩
    exact ⟨_, h.mem_find_iff.2 (Or.inl ⟨name, before, line, hline, rfl⟩), rfl⟩

lemma high_of_isAbout (hname : name = rootComponent → ¬ IsApplicationRoot path content.toList)
    (hd : d ∈ find path content) (habout : IsAbout d name) :
    d.severity = .high ∧ ∃ before line, before ++ [line] <+: pieces '\n' content.toList ∧
      DeclaredFirst name before line ∧ d.line = .ofNat (before.length + 1) := by
  rcases h.mem_find_iff.1 hd with ⟨other, before, line, hline, rfl⟩ | ⟨hroot, rfl⟩
  · obtain rfl := IsAbout.unique (isAbout_missingExport _ _ _ _) habout
    exact ⟨rfl, before, line, hline.stands, hline.declared, rfl⟩
  · exact absurd hroot (hname (IsAbout.unique habout rfl))

lemma isApplicationRoot_iff : IsApplicationRoot path content.toList ↔
    ∃ others d, find path content = others ++ [d] ∧ IsAbout d rootComponent ∧
      d.severity = .critical ∧ d.line = .null ∧ ∀ e ∈ others, ¬ IsAbout e rootComponent := by
  rcases h.closing_cases with ⟨hroot, rfl⟩ | ⟨hnot, rfl⟩
  · exact iff_of_true hroot
      ⟨_, _, h.find_eq, rfl, rfl, rfl, fun e he => h.not_isAbout_root hroot he⟩
  · refine iff_of_false hnot ?_
    rintro ⟨others, d, hfind, -, hcritical, -⟩
    have hd : d ∈ findingsFrom path settled 1 (pieces '\n' content.toList) := by
      rw [h.find_eq, List.append_nil] at hfind
      simp [hfind]
    rw [severity_of_mem_findingsFrom hd] at hcritical
    contradiction

end MadeOf

/-- **What the report about a file says.**  Without a declared default export, every finding is
about an entry component, and no two are about the same.  A component other than that of an
application root has a finding exactly if a line declares it without `export` and no export clause
lists it; the finding is of high severity and about the first such line.  Findings of high severity
are in the order of their lines.  The file is an application root exactly if the last finding is
critical, without a line, and the only one about the root component. -/
theorem find_reports_first_declarations (path content : String)
    (hdefault : ¬ DeclaresDefault content.toList) :
    (∀ d ∈ find path content, ∃ name ∈ entryComponents, IsAbout d name) ∧
    (find path content).Pairwise (fun d e => d.subject ≠ e.subject) ∧
    (∀ name ∈ entryComponents,
      (name = rootComponent → ¬ IsApplicationRoot path content.toList) →
      ((∃ d ∈ find path content, IsAbout d name) ↔
        (∃ line ∈ pieces '\n' content.toList, DeclaresComponent false name.toList line) ∧
          ¬ ListsName content.toList name.toList) ∧
      ∀ d ∈ find path content, IsAbout d name → d.severity = .high ∧
        ∃ before line, before ++ [line] <+: pieces '\n' content.toList ∧
          DeclaredFirst name before line ∧ d.line = .ofNat (before.length + 1)) ∧
    ((find path content).filter (·.severity = .high)).Pairwise LineBefore ∧
    (IsApplicationRoot path content.toList ↔
      ∃ others d, find path content = others ++ [d] ∧ IsAbout d rootComponent ∧
        d.severity = .critical ∧ d.line = .null ∧ ∀ e ∈ others, ¬ IsAbout e rootComponent) := by
  obtain ⟨settled, closing, h⟩ := exists_madeOf path hdefault
  exact ⟨fun d => h.exists_isAbout, h.pairwise_find,
    fun name hentry hname => ⟨h.isAbout_iff hentry hname, fun d => h.high_of_isAbout hname⟩,
    h.pairwise_high, h.isApplicationRoot_iff⟩

/-- A file that declares components in many ways, exports one by its declaration and one in a clause,
and declares another twice. -/
def manyComponents : String :=
  "export const Main = 1\nconst App = 2\nvar Home = 3\nasync function Home() {}\n" ++
    "let Index = 4\nexport type { Index as I }\n"

lemma not_declaresDefault_manyComponents : ¬ DeclaresDefault manyComponents.toList := by
  rw [← hasDefaultExport_iff]
  decide +kernel

/-- The component that is declared twice has a finding, the exported ones have none, and the file is
an application root. -/
theorem find_manyComponents :
    (∃ d ∈ find "src/App.jsx" manyComponents, IsAbout d "Home") ∧
      (¬ ∃ d ∈ find "src/App.jsx" manyComponents, IsAbout d "Main") ∧
      (¬ ∃ d ∈ find "src/App.jsx" manyComponents, IsAbout d "Index") ∧
      ∃ others d, find "src/App.jsx" manyComponents = others ++ [d] ∧ d.severity = .critical := by
  obtain ⟨-, -, hcomponents, -, hroot⟩ :=
    find_reports_first_declarations "src/App.jsx" manyComponents not_declaresDefault_manyComponents
  have happlication : IsApplicationRoot "src/App.jsx" manyComponents.toList := by
    rw [← isRoot_iff]
    decide +kernel
  obtain ⟨others, d, hfind, -, hcritical, -⟩ := hroot.1 happlication
  refine ⟨?home, ?main, ?index, others, d, hfind, hcritical⟩
  case home =>
    rw [(hcomponents "Home" (by decide) (absurd · (by decide))).1]
    decide +kernel
  case main =>
    rw [(hcomponents "Main" (by decide) (absurd · (by decide))).1]
    decide +kernel
  case index =>
    rw [(hcomponents "Index" (by decide) (absurd · (by decide))).1]
    decide +kernel

end ProjectCheck.MissingExport
