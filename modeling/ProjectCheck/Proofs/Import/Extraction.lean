import ProjectCheck.Proofs.Import.Written

/-!
# The import declarations of a source text

A source text is made of import declarations and of other text, in which the word `import` does not
occur; inside a declaration it may occur anywhere.  Exactly the declarations are found, each with its
whole text and its place (`declarations_of_source`).

Nothing is found in front of a declaration: the word has no beginning that is an ending of it, so it
cannot begin in other text and go on in a declaration (`not_prefix_append_import`).
-/

namespace ProjectCheck.Import

open ProjectCheck.Text

/-! ## Sources -/

/-- A text in which the word `import` does not occur. -/
abbrev Filler := { s : List Char // ¬ "import".toList <:+: s }

/-- A source text: declarations, each with the other text in front of it, and what follows the
last. -/
structure Source where
  parts : List (Filler × Written)
  rest : Filler

namespace Source

/-- The text of declarations with the other text in front of each. -/
def textOf (parts : List (Filler × Written)) : List Char :=
  parts.flatMap fun part => part.1.1 ++ part.2.text

/-- A source as a text. -/
def text (source : Source) : List Char :=
  textOf source.parts ++ source.rest.1

/-- The declarations of a source that goes on after `before`, each with all the text in front of
it. -/
def placedAfter (before : List Char) : List (Filler × Written) → List (List Char × Written)
  | [] => []
  | (filler, w) :: parts =>
    (before ++ filler.1, w) :: placedAfter (before ++ filler.1 ++ w.text) parts

/-- The declarations of a source, each with all the text in front of it. -/
def placed (source : Source) : List (List Char × Written) :=
  placedAfter [] source.parts

/-- A declaration as it should be found, with all the text in front of it. -/
def findOf (p : List Char × Written) : Find Declaration :=
  ⟨p.1.reverse, p.2.text, p.2.declaration⟩

/-- What holds of the declarations at their places holds of the declarations. -/
lemma map_placedAfter {β : Type} (f : Written → β) (before : List Char)
    (parts : List (Filler × Written)) :
    (placedAfter before parts).map (fun p => f p.2) = parts.map fun part => f part.2 := by
  induction parts generalizing before with
  | nil => rfl
  | cons part parts ih => simp [placedAfter, ih]

end Source

/-! ## Where nothing is found -/

/-- The word `import` cannot begin in a text where it does not occur and go on in a declaration. -/
lemma not_prefix_append_import {s : List Char} (h : ¬ "import".toList <:+: s) (hne : s ≠ [])
    (rest : List Char) : ¬ "import".toList <+: s ++ ("import".toList ++ rest) := by
  intro hbegins
  have hin := prefix_of_prefix_append_cons (c := 'i') hne (by decide) hbegins
  exact h hin.isInfix

lemma takeDeclaration?_of_not_prefix {s : List Char} (h : ¬ "import".toList <+: s) :
    takeDeclaration? s = none := by
  rw [takeDeclaration?, afterPrefix?_eq_none_iff.2 h]
  rfl

lemma Written.text_eq (w : Written) : ∃ rest, w.text = "import".toList ++ rest := by
  match w with
  | .sideEffect gap source => exact ⟨_, text_sideEffect gap source⟩
  | .binding gap none clause afterFrom source => exact ⟨_, text_plain gap clause afterFrom source⟩
  | .binding gap (some typed) clause afterFrom source =>
    exact ⟨_, text_typed gap typed clause afterFrom source⟩

/-- The search passes over the text in front of a declaration. -/
lemma findsAfter_filler (before : List Char) (filler : Filler) (w : Written) (s : List Char) :
    findsAfter (fun _ s => takeDeclaration? s) before (filler.1 ++ (w.text ++ s)) =
      findsAfter (fun _ s => takeDeclaration? s) (filler.1.reverse ++ before) (w.text ++ s) := by
  obtain ⟨rest, htext⟩ := w.text_eq
  refine findsAfter_append before fun a b hab hb _ => takeDeclaration?_of_not_prefix ?_
  have hfree : ¬ "import".toList <:+: b := fun hin => filler.2 (hab ▸ hin.trans ⟨a, [], by simp⟩)
  rw [htext, List.append_assoc]
  exact not_prefix_append_import hfree hb _

/-! ## What is found -/

/-- **One declaration after another.**  The finds in the rest of a source are its declarations. -/
lemma findsAfter_textOf (before : List Char) (parts : List (Filler × Written)) (rest : Filler) :
    findsAfter (fun _ s => takeDeclaration? s) before.reverse (Source.textOf parts ++ rest.1) =
      (Source.placedAfter before parts).map Source.findOf := by
  induction parts generalizing before with
  | nil =>
    refine findsAfter_eq_nil _ fun a b hab _ _ => takeDeclaration?_of_not_prefix fun hbegins => ?_
    exact rest.2 (hbegins.isInfix.trans ⟨a, [], by rw [List.append_nil]; exact hab.symm⟩)
  | cons part parts ih =>
    obtain ⟨filler, w⟩ := part
    have htext : Source.textOf ((filler, w) :: parts) ++ rest.1 =
        filler.1 ++ (w.text ++ (Source.textOf parts ++ rest.1)) := by simp [Source.textOf]
    have hne : w.text ≠ [] := by
      obtain ⟨rest, hw⟩ := w.text_eq
      rw [hw]
      exact List.cons_ne_nil _ _
    have hbehind : w.text.reverse ++ (filler.1.reverse ++ before.reverse) =
        (before ++ filler.1 ++ w.text).reverse := by simp
    rw [htext, findsAfter_filler,
      findsAfter_of_read _ hne fun _ => takeDeclaration?_text w (Source.textOf parts ++ rest.1),
      hbehind, ih, Source.placedAfter, List.map_cons, Source.findOf, List.reverse_append]

/-- **Exactly the declarations are found.**  In a source text made of import declarations of any
supported form and of text without the word `import`, there is one find for each declaration, in
order.  Its text is the whole declaration, it lies at its place and on its line, it names the module
that is written between the quotes, and it binds what the form binds, so its kind is the one of the
form. -/
theorem declarations_of_source (source : Source) :
    let found := declarations (String.ofList source.text)
    found.map (fun f => (f.before.reverse, f.text)) = source.placed.map (fun p => (p.1, p.2.text)) ∧
      found.map (·.content) = source.parts.map (·.2.declaration) ∧
      found.map (·.content.specifier) = source.parts.map (·.2.specifier) ∧
      found.map (·.content.kindName) = source.parts.map (·.2.kindName) ∧
      found.map (·.offset) = source.placed.map (·.1.length) ∧
      found.map (·.line) = source.placed.map (fun p => p.1.count '\n' + 1) := by
  intro found
  have hfound : found = source.placed.map Source.findOf := by
    simp only [found, declarations, finds, String.toList_ofList, Source.text]
    exact findsAfter_textOf [] source.parts source.rest
  rw [hfound, ← Source.map_placedAfter Written.declaration [],
    ← Source.map_placedAfter Written.specifier [], ← Source.map_placedAfter Written.kindName []]
  simp only [List.map_map]
  refine ⟨?texts, ?contents, ?specifiers, ?kinds, ?offsets, ?lines⟩
  case texts => exact List.map_congr_left fun p _ => by simp [Source.findOf]
  case contents => rfl
  case specifiers => exact List.map_congr_left fun p _ => p.2.specifier_declaration
  case kinds => exact List.map_congr_left fun p _ => p.2.kindName_declaration
  case offsets => exact List.map_congr_left fun p _ => by simp [Find.offset, Source.findOf]
  case lines => exact List.map_congr_left fun p _ => by simp [Find.line, lineAfter, Source.findOf]

end ProjectCheck.Import
