import ProjectCheck.Text.Cut
import ProjectCheck.Value.JsonReader

/-!
# JSON with comments

Two passes turn a text with comments and trailing commas into strict JSON.  The first removes line
comments up to the line feed and block comments; the second removes a comma before a closing
bracket and leaves the blanks between them.  Both pass over strings, so whatever looks like a
comment or a trailing comma inside a string stays.

A quote without a partner is an ordinary character, and so is an opening of a block comment that is
never closed.  In the second pass a string may not hold an escaped line feed.
-/

namespace ProjectCheck.Manifest

open ProjectCheck.Text

/-- The rest of a string after its opening quote, with the closing quote, and what follows. -/
def takeQuoted? (acrossLines : Bool) : List Char → Option (List Char × List Char)
  | [] => none
  | '"' :: rest => some (['"'], rest)
  | '\\' :: c :: rest =>
    if c == '\n' && !acrossLines then none
    else (takeQuoted? acrossLines rest).map fun cut => ('\\' :: c :: cut.1, cut.2)
  | c :: rest =>
    if c == '\\' then none else (takeQuoted? acrossLines rest).map fun cut => (c :: cut.1, cut.2)

theorem takeQuoted?_eq_some {acrossLines : Bool} {s body rest : List Char}
    (h : takeQuoted? acrossLines s = some (body, rest)) : s = body ++ rest := by
  fun_induction takeQuoted? acrossLines s generalizing body with
  | case1 => simp at h
  | case2 =>
    simp only [Option.some.injEq, Prod.mk.injEq] at h
    obtain ⟨rfl, rfl⟩ := h
    rfl
  | case3 => simp at h
  | case4 c s _ ih =>
    obtain ⟨cut, hcut, hpair⟩ := Option.map_eq_some_iff.1 h
    simp only [Prod.mk.injEq] at hpair
    obtain ⟨rfl, rfl⟩ := hpair
    simp [ih hcut]
  | case5 => simp at h
  | case6 c s _ _ _ ih =>
    obtain ⟨cut, hcut, hpair⟩ := Option.map_eq_some_iff.1 h
    simp only [Prod.mk.injEq] at hpair
    obtain ⟨rfl, rfl⟩ := hpair
    simp [ih hcut]

theorem length_le_of_takeQuoted? {acrossLines : Bool} {s body rest : List Char}
    (h : takeQuoted? acrossLines s = some (body, rest)) : rest.length ≤ s.length := by
  rw [takeQuoted?_eq_some h]
  simp

theorem length_dropWhile_le (p : Char → Bool) (s : List Char) :
    (s.dropWhile p).length ≤ s.length :=
  (List.dropWhile_sublist p).length_le

/-- Removes comments. -/
def stripComments : List Char → List Char
  | [] => []
  | '"' :: rest =>
    match _h : takeQuoted? true rest with
    | some (body, after) => '"' :: body ++ stripComments after
    | none => '"' :: stripComments rest
  | '/' :: '/' :: rest => stripComments (rest.dropWhile (· != '\n'))
  | '/' :: '*' :: rest =>
    match _h : cutAt? ['*', '/'] rest with
    | some (_, after) => stripComments after
    | none => '/' :: stripComments ('*' :: rest)
  | c :: rest => c :: stripComments rest
termination_by s => s.length
decreasing_by
  · have := length_le_of_takeQuoted? _h
    simp only [List.length_cons]; omega
  · simp
  · have := length_dropWhile_le (· != '\n') rest
    simp only [List.length_cons]; omega
  · have := length_lt_of_cutAt? (by simp) _h
    simp only [List.length_cons]; omega
  · simp
  · simp

/-- Removes commas before closing brackets. -/
def stripTrailingCommas : List Char → List Char
  | [] => []
  | '"' :: rest =>
    match _h : takeQuoted? false rest with
    | some (body, after) => '"' :: body ++ stripTrailingCommas after
    | none => '"' :: stripTrailingCommas rest
  | ',' :: rest =>
    match _h : trimStart rest with
    | [] => ',' :: stripTrailingCommas rest
    | c :: after =>
      if c == '\x7d' || c == ']' then rest.takeWhile isBlank ++ c :: stripTrailingCommas after
      else ',' :: stripTrailingCommas rest
  | c :: rest => c :: stripTrailingCommas rest
termination_by s => s.length
decreasing_by
  · have := length_le_of_takeQuoted? _h
    simp only [List.length_cons]; omega
  · simp
  · simp
  · have hlen := length_dropWhile_le isBlank rest
    unfold trimStart at _h
    rw [_h] at hlen
    simp only [List.length_cons] at hlen ⊢; omega
  · simp
  · simp

/-- Removes comments and trailing commas. -/
def stripJsonc (s : List Char) : List Char :=
  stripTrailingCommas (stripComments s)

end ProjectCheck.Manifest

/-!
## Manifests

What a project's manifest says about the resolution of modules: a base directory, and alias
patterns with their replacements in the order in which they are declared.  Fields of another shape
than expected are dropped, and so is a pattern that is left without replacements.
-/

namespace ProjectCheck

/-- What a manifest says about the resolution of modules. -/
structure Manifest where
  baseUrl : Option String := none
  aliases : List (String × List String) := []
deriving Repr, DecidableEq, Inhabited

namespace Manifest

/-- Whether a manifest says nothing. -/
def isEmpty (m : Manifest) : Bool :=
  m.baseUrl.isNone && m.aliases.isEmpty

/-- The texts among the items of a list; nothing if there are none, or the value is no list. -/
def replacements? : Value → Option (List String)
  | .list items =>
    match items.filterMap Value.text? with
    | [] => none
    | texts => some texts
  | _ => none

/-- The base directory in the compiler options: a text that is not empty. -/
def baseUrlOf (options : List (String × Value)) : Option String :=
  ((Table.get? "baseUrl" options).bind Value.text?).filter (!·.isEmpty)

/-- The alias patterns in the compiler options. -/
def aliasesOf (options : List (String × Value)) : List (String × List String) :=
  match Table.get? "paths" options with
  | some (.record members) =>
    members.filterMap fun (pattern, value) => (replacements? value).map (pattern, ·)
  | _ => []

/-- What the value of a manifest says. -/
def ofValue (v : Value) : Manifest :=
  match v.member? "compilerOptions" with
  | some (.record options) => { baseUrl := baseUrlOf options, aliases := aliasesOf options }
  | _ => {}

/-- Reads the text of a manifest, which has to be JSON once comments are removed. -/
def parse (text : String) : Except Value.JsonFault Manifest :=
  (Value.readJson (stripJsonc text.toList)).map ofValue

/-- A manifest as a record. -/
def toValue (m : Manifest) : Value :=
  .record
    [("base_url", .ofOption .text m.baseUrl),
     ("paths", .list (m.aliases.map fun (pattern, replacements) =>
        .list [.text pattern, .list (replacements.map .text)])),
     ("is_empty", .bool m.isEmpty)]

end Manifest

end ProjectCheck
