import Mathlib.Data.List.Infix
import ProjectCheck.Text.Cut

/-!
# Occurrences of a separator

`cutAt?` and `splitOn` say how a text is cut; this file says where.  A cut lies at the first
occurrence of the separator (`cutAt?_eq_some_iff`), there is none exactly if the separator does not
occur (`cutAt?_eq_none_iff`), and the pieces of a split hold no separator
(`absent_of_mem_splitOn`).

The second half is about texts that are put together from lines.  A separator without the line
feed cannot reach over the end of a line, so a line that does not hold the separator neither makes
nor hides an occurrence: it only lengthens the first piece (`cutAt?_append_cons`,
`splitOn_append_cons`).  This is what keeps framed files apart, however the separator overlaps with
itself.
-/

namespace ProjectCheck.Text

/-- A character that does not occur in a text differs from each of it. -/
lemma bne_of_notMem {c : Char} {s : List Char} (h : c ∉ s) : ∀ d ∈ s, (d != c) = true :=
  fun _ hd => bne_iff_ne.2 (ne_of_mem_of_not_mem hd h)

/-! ## Prefixes -/

@[simp] lemma afterPrefix?_append (lead s : List Char) :
    afterPrefix? lead (lead ++ s) = some s := by
  induction lead with
  | nil => rfl
  | cons a lead ih => simp [afterPrefix?, ih]

lemma afterPrefix?_append_append (front lead s : List Char) :
    afterPrefix? (front ++ lead) (front ++ s) = afterPrefix? lead s := by
  induction front with
  | nil => rfl
  | cons a front ih => simp [afterPrefix?, ih]

lemma afterPrefix?_eq_none_iff {lead s : List Char} :
    afterPrefix? lead s = none ↔ ¬ lead <+: s := by
  rw [Option.eq_none_iff_forall_ne_some]
  constructor
  · rintro h ⟨after, rfl⟩
    exact h after (afterPrefix?_append lead after)
  · intro h after hs
    exact h ⟨after, (afterPrefix?_eq_some hs).symm⟩

lemma isSome_afterPrefix?_iff {lead s : List Char} :
    (afterPrefix? lead s).isSome = true ↔ lead <+: s := by
  rw [← not_iff_not, Option.not_isSome_iff_eq_none, afterPrefix?_eq_none_iff]

/-- A text that is left when a prefix is dropped once is the whole text, or stood behind the
prefix. -/
lemma dropLead_eq_iff {lead s t : List Char} :
    dropLead lead s = t ↔ s = lead ++ t ∨ s = t ∧ ¬ lead <+: s := by
  rw [dropLead]
  by_cases h : lead <+: s
  · obtain ⟨after, rfl⟩ := h
    simp
  · rw [afterPrefix?_eq_none_iff.2 h, Option.getD_none]
    constructor
    · intro hst
      exact Or.inr ⟨hst, h⟩
    · rintro (rfl | ⟨hst, -⟩)
      · exact absurd (List.prefix_append lead t) h
      · exact hst

/-- A prefix of two texts in a row ends in the first or in the second. -/
lemma prefix_append_cases {cut a b : List Char} (h : cut <+: a ++ b) :
    (cut <+: a ∧ cut.length < a.length) ∨ ∃ rest, cut = a ++ rest ∧ rest <+: b := by
  by_cases hlen : cut.length < a.length
  · exact Or.inl ⟨List.prefix_of_prefix_length_le h (List.prefix_append a b) hlen.le, hlen⟩
  · obtain ⟨rest, rfl⟩ :=
      List.prefix_of_prefix_length_le (List.prefix_append a b) h (Nat.le_of_not_lt hlen)
    exact Or.inr ⟨rest, rfl, (List.prefix_append_right_inj a).1 h⟩

/-- A word whose first character comes only once cannot begin in a text and go on behind the next
place with this character. -/
lemma prefix_of_prefix_append_cons {word s rest : List Char} {c : Char} (hs : s ≠ [])
    (hc : c ∉ word.tail) (h : word <+: s ++ c :: rest) : word <+: s := by
  rcases prefix_append_cases h with ⟨hin, -⟩ | ⟨ending, rfl, hbegins⟩
  · exact hin
  · cases ending with
    | nil => rw [List.append_nil]
    | cons d ending =>
      obtain rfl : d = c := by
        obtain ⟨t, ht⟩ := hbegins
        exact (List.cons.inj ht).1
      rw [List.tail_append_of_ne_nil hs] at hc
      exact absurd (by simp) hc

/-! ## First occurrences -/

/-- The first occurrence of a separator in `before ++ sep` is the one at its end. -/
def FirstAtEnd (sep before : List Char) : Prop :=
  ∀ a b, before ++ sep = a ++ sep ++ b → b = []

lemma FirstAtEnd.nil (sep : List Char) : FirstAtEnd sep [] := by
  intro a b h
  have hlen := congrArg List.length h
  simp only [List.length_append, List.length_nil] at hlen
  exact List.length_eq_zero_iff.1 (by omega)

/-- A character has its first occurrence behind a text that does not hold it. -/
lemma FirstAtEnd.of_notMem {before : List Char} {c : Char} (h : c ∉ before) :
    FirstAtEnd [c] before := by
  intro a b hab
  rcases List.eq_nil_or_concat b with rfl | ⟨b, d, rfl⟩
  · rfl
  · -- Otherwise the occurrence ends in front of the last character, so it lies in the text.
    have hsplit : before ++ [c] = (a ++ [c] ++ b) ++ [d] := by simpa using hab
    obtain ⟨rfl, -⟩ := List.append_inj' hsplit rfl
    exact absurd (by simp) h

/-- What stands before a first occurrence holds no separator. -/
lemma FirstAtEnd.absent_before {sep before : List Char} (hsep : sep ≠ [])
    (h : FirstAtEnd sep before) : ¬ sep <:+: before := by
  rintro ⟨a, b, rfl⟩
  have hb := h a (b ++ sep) (by simp)
  exact hsep (List.append_eq_nil_iff.1 hb).2

/-- An end of the text up to a first occurrence still has its first occurrence at the end. -/
lemma FirstAtEnd.of_append {sep a b : List Char} (h : FirstAtEnd sep (a ++ b)) :
    FirstAtEnd sep b := by
  intro x y hxy
  exact h (a ++ x) y (by rw [List.append_assoc, hxy]; simp)

/-- A prefix that stops short of the end of the first occurrence holds no occurrence. -/
lemma FirstAtEnd.absent_in_cut {sep before cut : List Char} (h : FirstAtEnd sep before)
    (hcut : cut <+: before ++ sep) (hlen : cut.length < (before ++ sep).length) :
    ¬ sep <:+: cut := by
  rintro ⟨a, b, rfl⟩
  obtain ⟨t, ht⟩ := hcut
  have htail := h a (b ++ t) (by rw [← ht]; simp)
  have ht0 : t = [] := (List.append_eq_nil_iff.1 htail).2
  rw [← ht, ht0] at hlen
  simp at hlen

/-- Adding a character at the front keeps the first occurrence where it is, unless the separator
begins at that character. -/
lemma FirstAtEnd.cons {sep before rest : List Char} {c : Char}
    (hc : ¬ sep <+: c :: (before ++ sep ++ rest)) (h : FirstAtEnd sep before) :
    FirstAtEnd sep (c :: before) := by
  intro a b hab
  cases a with
  | nil =>
    refine absurd ⟨b ++ rest, ?_⟩ hc
    have hrest := congrArg (· ++ rest) hab
    simpa using hrest.symm
  | cons x a =>
    simp only [List.cons_append, List.cons.injEq] at hab
    exact h a b hab.2

/-! ## Cuts -/

theorem cutAt?_append {sep before : List Char} (h : FirstAtEnd sep before) (after : List Char) :
    cutAt? sep (before ++ sep ++ after) = some (before, after) := by
  induction before with
  | nil =>
    rw [List.nil_append]
    cases hs : sep ++ after with
    | nil =>
      obtain ⟨rfl, rfl⟩ := List.append_eq_nil_iff.1 hs
      rfl
    | cons c rest => simp only [cutAt?, ← hs, afterPrefix?_append]
  | cons c before ih =>
    have hc : afterPrefix? sep (c :: (before ++ sep ++ after)) = none := by
      rw [afterPrefix?_eq_none_iff]
      intro hp
      -- An occurrence at the front would end before the one at the end.
      have hwhole : c :: before ++ sep <+: c :: (before ++ sep ++ after) := ⟨after, by simp⟩
      obtain ⟨t, ht⟩ := List.prefix_of_prefix_length_le hp hwhole (by simp; omega)
      have ht0 := h [] t (by rw [← ht]; simp)
      have hlen := congrArg List.length ht
      simp only [ht0, List.append_nil, List.length_append, List.length_cons] at hlen
      omega
    have htail : FirstAtEnd sep before := FirstAtEnd.of_append (a := [c]) h
    simp only [List.cons_append, cutAt?, hc, ih htail, Option.map_some]

lemma firstAtEnd_of_cutAt? {sep s before after : List Char}
    (h : cutAt? sep s = some (before, after)) : FirstAtEnd sep before := by
  induction s generalizing before with
  | nil =>
    simp only [cutAt?] at h
    split at h
    · simp only [Option.some.injEq, Prod.mk.injEq] at h
      exact h.1 ▸ FirstAtEnd.nil sep
    · simp at h
  | cons c rest ih =>
    simp only [cutAt?] at h
    split at h
    · simp only [Option.some.injEq, Prod.mk.injEq] at h
      exact h.1 ▸ FirstAtEnd.nil sep
    · rename_i hnone
      obtain ⟨cut, hcut, hpair⟩ := Option.map_eq_some_iff.1 h
      simp only [Prod.mk.injEq] at hpair
      obtain ⟨rfl, rfl⟩ := hpair
      rw [afterPrefix?_eq_none_iff, cutAt?_eq_some hcut] at hnone
      exact FirstAtEnd.cons hnone (ih hcut)

lemma firstAtEnd_iff {sep before : List Char} :
    FirstAtEnd sep before ↔ cutAt? sep (before ++ sep) = some (before, []) := by
  constructor
  · intro h
    have hcut := cutAt?_append h []
    rwa [List.append_nil] at hcut
  · exact firstAtEnd_of_cutAt?

instance (sep before : List Char) : Decidable (FirstAtEnd sep before) :=
  decidable_of_iff _ firstAtEnd_iff.symm

/-- A text is cut exactly at the first occurrence of the separator. -/
theorem cutAt?_eq_some_iff {sep s before after : List Char} :
    cutAt? sep s = some (before, after) ↔ s = before ++ sep ++ after ∧ FirstAtEnd sep before := by
  constructor
  · intro h
    exact ⟨cutAt?_eq_some h, firstAtEnd_of_cutAt? h⟩
  · rintro ⟨rfl, h⟩
    exact cutAt?_append h after

/-- A text is not cut exactly if the separator does not occur in it. -/
theorem cutAt?_eq_none_iff {sep s : List Char} : cutAt? sep s = none ↔ ¬ sep <:+: s := by
  induction s with
  | nil => cases sep <;> simp [cutAt?]
  | cons c rest ih =>
    rw [List.infix_cons_iff, not_or, ← ih, ← afterPrefix?_eq_none_iff, cutAt?]
    split
    · rename_i after hafter
      simp [hafter]
    · rename_i hnone
      simp [hnone]

/-! ## Pieces -/

lemma splitOn_ne_nil (sep s : List Char) : splitOn sep s ≠ [] := by
  fun_cases splitOn sep s <;> simp

lemma splitOn_of_absent {sep s : List Char} (h : ¬ sep <:+: s) : splitOn sep s = [s] := by
  have hsep : sep ≠ [] := by
    rintro rfl
    exact h List.nil_infix
  rw [splitOn, dif_neg hsep]
  split
  · rfl
  · rename_i hcut
    rw [cutAt?_eq_none_iff.2 h] at hcut
    simp at hcut

lemma splitOn_eq_cons_of_cutAt? {sep s before after : List Char} (hsep : sep ≠ [])
    (h : cutAt? sep s = some (before, after)) : splitOn sep s = before :: splitOn sep after := by
  rw [splitOn, dif_neg hsep]
  split
  · rename_i hcut
    rw [h] at hcut
    simp at hcut
  · rename_i hcut
    rw [h] at hcut
    simp only [Option.some.injEq, Prod.mk.injEq] at hcut
    rw [hcut.1, hcut.2]

/-- No piece of a split holds the separator. -/
theorem absent_of_mem_splitOn {sep s piece : List Char} (hsep : sep ≠ [])
    (h : piece ∈ splitOn sep s) : ¬ sep <:+: piece := by
  fun_induction splitOn sep s with
  | case1 => contradiction
  | case2 s _ hcut =>
    rw [List.mem_singleton.1 h]
    exact cutAt?_eq_none_iff.1 hcut
  | case3 s _ before after hcut ih =>
    rcases List.mem_cons.1 h with rfl | h
    · exact (firstAtEnd_of_cutAt? hcut).absent_before hsep
    · exact ih h

/-! ## Texts made of lines -/

/-- A separator that does not hold a character occurs before or behind that character. -/
lemma infix_append_cons_iff {sep a b : List Char} {c : Char} (hc : c ∉ sep) :
    sep <:+: a ++ c :: b ↔ sep <:+: a ∨ sep <:+: b := by
  constructor
  · intro h
    rcases List.infix_append_iff_ne_nil.1 h with ha | hcb | ⟨l₁, l₂, -, hl₂, rfl, -, hp⟩
    · exact Or.inl ha
    · rcases List.infix_cons_iff.1 hcb with hp | hb
      · -- A separator at the character itself is empty.
        cases sep with
        | nil => exact Or.inl List.nil_infix
        | cons x sep => simp_all
      · exact Or.inr hb
    · cases l₂ with
      | nil => contradiction
      | cons x l₂ => simp_all
  · rintro (ha | hb)
    · exact List.infix_append_of_infix_left ha
    · exact List.infix_append_of_infix_right (List.infix_cons hb)

/-- A line without the separator does not move the first occurrence. -/
lemma FirstAtEnd.append_cons {sep line before : List Char} {c : Char} (hc : c ∉ sep)
    (hline : ¬ sep <:+: line) (h : FirstAtEnd sep before) :
    FirstAtEnd sep (line ++ c :: before) := by
  intro a b hab
  have hab' : (line ++ [c]) ++ (before ++ sep) = a ++ (sep ++ b) := by simpa using hab
  rcases List.append_eq_append_iff.1 hab' with ⟨u, -, hu⟩ | ⟨v, hv, hsep⟩
  · exact h u b (by simpa using hu)
  · rcases List.eq_nil_or_concat v with rfl | ⟨w, d, rfl⟩
    · exact h [] b (by simpa using hsep.symm)
    · -- The occurrence begins in the line, so it reaches over the end of the line or lies in it.
      obtain ⟨rfl, hd⟩ := List.append_inj' (by simpa using hv : line ++ [c] = (a ++ w) ++ [d]) rfl
      obtain rfl : c = d := by simpa using hd
      rcases List.append_eq_append_iff.1 hsep with ⟨u, hu, -⟩ | ⟨u, hu, -⟩
      · have hin : sep <:+: (a ++ w) ++ c :: [] :=
          ⟨a, u, by rw [List.append_assoc, ← hu]; simp⟩
        rcases (infix_append_cons_iff hc).1 hin with hw | hnil
        · exact absurd hw hline
        · rw [List.infix_nil.1 hnil] at hline
          exact absurd List.nil_infix hline
      · exact absurd (by simp [hu]) hc

/-- A line without the separator stays in front of the first cut. -/
theorem cutAt?_append_cons {sep line : List Char} {c : Char} (hc : c ∉ sep)
    (hline : ¬ sep <:+: line) (rest : List Char) :
    cutAt? sep (line ++ c :: rest) =
      (cutAt? sep rest).map fun cut => (line ++ c :: cut.1, cut.2) := by
  cases hrest : cutAt? sep rest with
  | none =>
    rw [cutAt?_eq_none_iff] at hrest
    rw [Option.map_none, cutAt?_eq_none_iff, infix_append_cons_iff hc, not_or]
    exact ⟨hline, hrest⟩
  | some cut =>
    obtain ⟨rfl, hfirst⟩ := cutAt?_eq_some_iff.1 (hrest : _ = some (cut.1, cut.2))
    rw [Option.map_some, cutAt?_eq_some_iff]
    exact ⟨by simp, hfirst.append_cons hc hline⟩

/-- A line without the separator only lengthens the first piece. -/
theorem splitOn_append_cons {sep line : List Char} {c : Char} (hc : c ∉ sep)
    (hline : ¬ sep <:+: line) (rest : List Char) :
    splitOn sep (line ++ c :: rest) =
      (splitOn sep rest).modifyHead (line ++ c :: ·) := by
  have hsep : sep ≠ [] := by
    rintro rfl
    exact hline List.nil_infix
  have hcut := cutAt?_append_cons hc hline rest
  cases hrest : cutAt? sep rest with
  | none =>
    rw [hrest, Option.map_none, cutAt?_eq_none_iff] at hcut
    rw [splitOn_of_absent hcut, splitOn_of_absent (cutAt?_eq_none_iff.1 hrest)]
    rfl
  | some cut =>
    rw [hrest, Option.map_some] at hcut
    rw [splitOn_eq_cons_of_cutAt? hsep hcut, splitOn_eq_cons_of_cutAt? hsep hrest]
    rfl

/-! ## One more character

A character that is not in what is looked for, at the end of the text, is only left over. -/

section

variable {c : Char}

lemma afterPrefix?_concat {lead : List Char} (hc : c ∉ lead) (s : List Char) :
    afterPrefix? lead (s ++ [c]) = (afterPrefix? lead s).map (· ++ [c]) := by
  induction lead generalizing s with
  | nil => rfl
  | cons a lead ih =>
    rw [List.mem_cons, not_or] at hc
    cases s with
    | nil => exact if_neg (Ne.symm hc.1)
    | cons d s =>
      rw [List.cons_append, afterPrefix?, afterPrefix?]
      split
      · exact ih hc.2 s
      · rfl

lemma infix_concat_iff {part : List Char} (hc : c ∉ part) {s : List Char} :
    part <:+: s ++ [c] ↔ part <:+: s := by
  rw [infix_append_cons_iff hc, or_iff_left_iff_imp, List.infix_nil]
  rintro rfl
  exact List.nil_infix

lemma occursIn_concat {part : List Char} (hc : c ∉ part) (s : List Char) :
    occursIn part (s ++ [c]) = occursIn part s := by
  rw [occursIn, occursIn, Bool.eq_iff_iff, ← not_iff_not, Option.not_isSome_iff_eq_none,
    Option.not_isSome_iff_eq_none, cutAt?_eq_none_iff, cutAt?_eq_none_iff, infix_concat_iff hc]

lemma cutAt?_concat {sep : List Char} (hc : c ∉ sep) (s : List Char) :
    cutAt? sep (s ++ [c]) = (cutAt? sep s).map fun cut => (cut.1, cut.2 ++ [c]) := by
  cases hcut : cutAt? sep s with
  | none =>
    rw [cutAt?_eq_none_iff] at hcut
    rw [Option.map_none, cutAt?_eq_none_iff, infix_concat_iff hc]
    exact hcut
  | some cut =>
    obtain ⟨hs, hfirst⟩ := cutAt?_eq_some_iff.1 (hcut : _ = some (cut.1, cut.2))
    rw [Option.map_some, cutAt?_eq_some_iff]
    exact ⟨by rw [hs, List.append_assoc], hfirst⟩

end

end ProjectCheck.Text
