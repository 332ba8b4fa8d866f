import ProjectCheck.Text.Place

/-!
# Import declarations

The import declarations of a source text, found by their shape alone: the word `import`, perhaps
the word `type`, perhaps a default name, perhaps a list of names in braces or a namespace name
behind a star, perhaps the word `from`, and a specifier in quotes.

`from` may be missing, and the word `from` or `type` may itself be taken for a default name where
nothing else reads.  A specifier is not empty and holds no quote.
-/

namespace ProjectCheck.Import

open ProjectCheck.Text

/-- What an import declaration binds, and the module that it names. -/
structure Declaration where
  defaultName : Option String := none
  names : Option String := none
  namespaceName : Option String := none
  specifier : String
deriving Repr, DecidableEq, Inhabited

namespace Declaration

/-- The kind of a declaration by the first thing that it binds. -/
def kindName (d : Declaration) : String :=
  if d.defaultName.isSome then "default"
  else if d.names.isSome then "named"
  else if d.namespaceName.isSome then "namespace"
  else "side_effect"

end Declaration

/-! ## Reading a declaration -/

/-- Whether a character is a quote. -/
def isQuote (c : Char) : Bool :=
  c == '\'' || c == '"'

/-- A text between quotes, of either kind at either end. -/
def takeSpecifier? : List Char → Option (List Char × List Char)
  | [] => none
  | quote :: s =>
    if isQuote quote then
      match s.takeWhile (!isQuote ·), s.dropWhile (!isQuote ·) with
      | [], _ => none
      | _, [] => none
      | specifier, _ :: rest => some (specifier, rest)
    else none

/-- Drops the word `from` and the blanks behind it, if both are there. -/
def dropFrom (s : List Char) : List Char :=
  (((afterPrefix? "from".toList s).bind dropBlanks?)).getD s

/-- The specifier at the end of a declaration, perhaps after `from`. -/
def takeSource? (s : List Char) : Option (List Char × List Char) :=
  takeSpecifier? (dropFrom (trimStart s))

/-- A list of names in braces. -/
def takeNames? (s : List Char) : Option (List Char × List Char) := do
  let inside ← afterPrefix? ['\x7b'] s
  match inside.dropWhile (· != '\x7d') with
  | [] => none
  | _ :: rest => return (inside.takeWhile (· != '\x7d'), rest)

/-- A namespace name behind a star. -/
def takeNamespace? (s : List Char) : Option (List Char × List Char) := do
  let afterStar ← dropBlanks? (← afterPrefix? ['*'] s)
  takeWord? (← dropBlanks? (← afterPrefix? ['a', 's'] afterStar))

/-- What follows a default name: names, a namespace or nothing, and then the specifier. -/
def takeBindings? (defaultName : Option String) (s : List Char) :
    Option (Declaration × List Char) :=
  match takeNames? s with
  | some (names, rest) => do
    let (specifier, after) ← takeSource? rest
    return ({ defaultName, names := some (String.ofList names),
              specifier := String.ofList specifier }, after)
  | none =>
    match takeNamespace? s with
    | some (name, rest) => do
      let (specifier, after) ← takeSource? rest
      return ({ defaultName, namespaceName := some (String.ofList name),
                specifier := String.ofList specifier }, after)
    | none => do
      let (specifier, after) ← takeSource? s
      return ({ defaultName, specifier := String.ofList specifier }, after)

/-- What follows `import`, with a default name if a word stands there. -/
def takeClause? (s : List Char) : Option (Declaration × List Char) :=
  match takeWord? s with
  | none => takeBindings? none s
  | some (name, rest) =>
    takeBindings? (some (String.ofList name)) (trimStart (dropLead [','] (trimStart rest)))

/-- An import declaration at the front. -/
def takeDeclaration? (s : List Char) : Option (Declaration × List Char) := do
  let clause ← dropBlanks? (← afterPrefix? "import".toList s)
  match (afterPrefix? "type".toList clause).bind dropBlanks? with
  | none => takeClause? clause
  | some typed =>
    match takeClause? typed with
    | some found => return found
    | none => takeClause? clause

/-- The import declarations of a text. -/
def declarations (content : String) : List (Find Declaration) :=
  finds (fun _ s => takeDeclaration? s) content.toList

end ProjectCheck.Import
