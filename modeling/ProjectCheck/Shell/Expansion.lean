import ProjectCheck.Shell.Calculation
import ProjectCheck.Shell.Glob

/-!
# Expansion of words

What the words of a command become when it is run: what stands behind dollar signs and between
backquotes gets its value, and a word that holds a bare star, question mark or pair of brackets
becomes the paths that fit it, if there are any.  Values that are not quoted are taken apart at their
gaps.

A word first becomes a list of atoms, which remember where a character came from.  `fieldsOf` makes
words of them again.  How commands inside words are run is given from outside.
-/

namespace ProjectCheck.Shell

open ProjectCheck.Text

/-- A piece of a word whose expansions have their values. -/
inductive Atom where
  /-- A character of the word itself, which may stand for others if it is active. -/
  | fixed (c : Char) (isActive : Bool)
  /-- A character of a value, at which the word may be taken apart. -/
  | loose (c : Char)
  /-- Something was quoted here, perhaps nothing. -/
  | kept
  /-- One word ends and the next begins. -/
  | gap
deriving Repr, DecidableEq

/-- The atoms of a value. -/
def valueAtoms (isQuoted : Bool) (s : String) : List Atom :=
  s.toList.map fun c => if isQuoted then .fixed c false else .loose c

/-- The atoms of several values: words of their own. -/
def separated (parts : List (List Atom)) : List Atom :=
  [Atom.gap].intercalate parts

/-! ## Fields -/

/-- How the last field ended. -/
inductive FieldEnd where
  /-- At a blank, which counts together with a sign behind it. -/
  | blank
  | other
deriving DecidableEq

/-- The fields that atoms form, with the signs between fields; `current` is the field that has
begun, in reverse order. -/
def fieldsAfter (signs : List Char) (current : Option Piece) (last : FieldEnd) :
    List Atom → List Piece
  | [] => (current.map List.reverse).toList
  | .fixed c isActive :: rest =>
    fieldsAfter signs (some ((c, isActive) :: current.getD [])) .other rest
  | .kept :: rest => fieldsAfter signs (some (current.getD [])) .other rest
  | .gap :: rest => (current.map List.reverse).toList ++ fieldsAfter signs none .other rest
  | .loose c :: rest =>
    if !signs.contains c then
      fieldsAfter signs (some ((c, true) :: current.getD [])) .other rest
    else
      let isBlank := c == ' ' || c == '\t' || c == '\n'
      match current, isBlank, last with
      | some piece, true, _ => piece.reverse :: fieldsAfter signs none .blank rest
      | some piece, false, _ => piece.reverse :: fieldsAfter signs none .other rest
      | none, true, _ => fieldsAfter signs none last rest
      | none, false, .blank => fieldsAfter signs none .other rest
      | none, false, .other => [] :: fieldsAfter signs none .other rest

/-- The fields that atoms form. -/
def fieldsOf (signs : List Char) (atoms : List Atom) : List Piece :=
  fieldsAfter signs none .other atoms

/-- The piece that atoms form without being taken apart. -/
def pieceOf (atoms : List Atom) : Piece :=
  atoms.filterMap fun a => match a with
    | .fixed c isActive => some (c, isActive)
    | .loose c => some (c, true)
    | .kept => none
    | .gap => some (' ', false)

/-! ## Variables -/

/-- The value of a name: a text, or all arguments. -/
inductive NamedValue where
  | text (s : String)
  /-- All arguments, perhaps as one text. -/
  | all (isJoined : Bool) (arguments : List String)
deriving Repr, DecidableEq

/-- The number under which the shell itself runs. -/
def ownNumber : String :=
  "1000"

/-- The number of the last command that was not waited for. -/
def behindNumber : String :=
  "1001"

/-- The value of a name on a machine, if it has one. -/
def namedValue? (m : Machine) (name : List Char) : Option NamedValue :=
  match name with
  | ['@'] => some (.all false m.arguments)
  | ['*'] => some (.all true m.arguments)
  | ['#'] => some (.text (toString m.arguments.length))
  | ['?'] => some (.text (toString m.status))
  | ['-'] => some (.text (String.ofList m.options))
  | ['$'] => some (.text ownNumber)
  | ['!'] => some (.text behindNumber)
  | ['0'] => some (.text m.name)
  | _ =>
    if name.all Char.isDigit then
      ((String.ofList name).toNat?.bind fun n => m.arguments[n - 1]?).map .text
    else (m.value? (String.ofList name)).map .text

/-- Whether a value is empty. -/
def NamedValue.isEmpty : NamedValue → Bool
  | text s => s.isEmpty
  | all _ arguments => arguments.all String.isEmpty

/-- The first sign between fields, which stands between arguments that are joined. -/
def joiner (m : Machine) : String :=
  match m.value? "IFS" with
  | none => " "
  | some signs => String.ofList (signs.toList.take 1)

/-- The atoms of the value of a name. -/
def NamedValue.atoms (m : Machine) (isQuoted : Bool) : NamedValue → List Atom
  | text s => valueAtoms isQuoted s
  | all isJoined arguments =>
    if isJoined && isQuoted then valueAtoms true ((joiner m).intercalate arguments)
    else separated (arguments.map fun s => (if isQuoted then [.kept] else []) ++ valueAtoms isQuoted s)

/-! ## Names in braces -/

/-- What braces ask for, besides the value of a name. -/
inductive BraceUse where
  | value
  | length
  /-- One of `-`, `=`, `?` and `+`, which may count an empty value as none, with a word. -/
  | instead (sign : Char) (countsEmpty : Bool) (word : List Char)
  /-- The value without its beginning or its end, the longest that fits or the shortest. -/
  | without (isEnd isLongest : Bool) (word : List Char)
deriving Repr, DecidableEq

/-- The name at the front of a text. -/
def takeVariableName (s : List Char) : List Char :=
  match s with
  | [] => []
  | c :: _ =>
    if namesOfOneChar.contains c then [c]
    else if c.isDigit then s.takeWhile Char.isDigit
    else s.takeWhile isNameChar

/-- What stands behind a name in braces. -/
def braceUse? (s : List Char) : Option BraceUse :=
  let isSign := fun c => "-=?+".toList.contains c
  match s with
  | [] => some .value
  | '%' :: '%' :: word => some (.without true true word)
  | '%' :: word => some (.without true false word)
  | '#' :: '#' :: word => some (.without false true word)
  | '#' :: word => some (.without false false word)
  | ':' :: c :: word => if isSign c then some (.instead c true word) else none
  | c :: word => if isSign c then some (.instead c false word) else none

/-- The name and the use of a text in braces. -/
def readBraces? (s : List Char) : Option (List Char × BraceUse) :=
  let plain := fun () =>
    let name := takeVariableName s
    if name.isEmpty then none else (braceUse? (s.drop name.length)).map fun use => (name, use)
  match s with
  | '#' :: rest =>
    let name := takeVariableName rest
    if !name.isEmpty && name.length == rest.length then some (name, .length) else plain ()
  | _ => plain ()

/-! ## Expansion -/

/-- How a word is taken inside of another. -/
inductive InnerManner where
  /-- It was quoted together with the word around it. -/
  | quoted
  /-- Its bare characters are those of a value. -/
  | value
  /-- It is a pattern. -/
  | pattern
deriving DecidableEq

/-- The glyphs of a word inside of another. -/
def innerWord (manner : InnerManner) (s : List Char) : Word :=
  match manner with
  | .quoted => ((quotedGlyphs .inner s).map (·.1)).toOption.getD []
  | _ => (glyphs s).toOption.getD []

/-- The home directory of the user that a tilde with a name means. -/
def homeOf? (m : Machine) (user : List Char) : Option String :=
  if user.isEmpty then m.value? "HOME" else if user == "root".toList then some "/root" else none

/-- The home directory in the place of a tilde at the front of a word, with the name of a user perhaps;
where a value of a variable is given, a colon may stand behind it. -/
def homeGlyphs (m : Machine) (isValue : Bool) (w : Word) : Word :=
  let ends := fun (g : Glyph) => g == .bare '/' || (isValue && g == .bare ':')
  match w with
  | .bare '~' :: rest =>
    let user := rest.takeWhile fun g => !ends g
    match (Word.bare? user).bind (homeOf? m) with
    | some home => home.toList.map .quoted ++ rest.drop user.length
    | none => w
  | _ => w

/-- The home directories in the places of the tildes at the fronts of the paths of a value, between
which colons stand; `front` holds what has been read of a path, in reverse order. -/
def homesOfValue (m : Machine) (front : Word) : Word → Word
  | [] => homeGlyphs m true front.reverse
  | .bare ':' :: rest => homeGlyphs m true front.reverse ++ .bare ':' :: homesOfValue m [] rest
  | g :: rest => homesOfValue m (g :: front) rest

/-- A word in which nothing but quotes stands around the arguments, of which there are none, is no
word at all. -/
def withoutIdleQuotes (m : Machine) : Word → Word
  | .quote :: .expansion ['@'] true :: rest =>
    if m.arguments.isEmpty then withoutIdleQuotes m rest
    else .quote :: .expansion ['@'] true :: withoutIdleQuotes m rest
  | g :: rest => g :: withoutIdleQuotes m rest
  | [] => []

/-- What is missing when a name has no value. -/
def notSet (name : List Char) (what : String) : Act (List Atom) :=
  Act.fail (String.ofList name ++ ": " ++ what)

/-- Refuses to change a variable that cannot be changed. -/
def checkedAssign (name value : String) : Act Unit := do
  if (← get).isReadOnly name then Act.fail (name ++ ": is read only")
  modify (·.assign name value)

mutual

/-- The atoms of a word.  The bare characters of a value are loose. -/
def atomsOf (inner : String → Act String) : Nat → (isValue : Bool) → Word → Act (List Atom)
  | 0, _, _ => Act.endless
  | fuel + 1, isValue, w => do
    let parts ← w.mapM fun g =>
      match g with
      | .bare c => pure [if isValue then .loose c else .fixed c true]
      | .quoted c => pure [Atom.fixed c false]
      | .quote => pure [.kept]
      | .expansion text isQuoted => expansionAtoms inner fuel isQuoted text
    return parts.flatten

/-- The text of a word. -/
def textOfWord (inner : String → Act String) : Nat → Word → Act String
  | 0, _ => Act.endless
  | fuel + 1, w => do return textOf (pieceOf (← atomsOf inner fuel false w))

/-- The atoms of what stands behind a dollar sign or between backquotes. -/
def expansionAtoms (inner : String → Act String) :
    Nat → (isQuoted : Bool) → List Char → Act (List Atom)
  | 0, _, _ => Act.endless
  | fuel + 1, isQuoted, text => do
    match text with
    | '(' :: body =>
      if body.head? == some '(' && body.getLast? == some ')' then
        let sum ← textOfWord inner fuel (innerWord .quoted (body.drop 1).dropLast)
        return valueAtoms isQuoted (toString (← calculate sum))
      else return valueAtoms isQuoted (← inner (String.ofList body))
    | '\x7b' :: body =>
      match readBraces? body with
      | none => Act.fail "Bad substitution"
      | some (name, use) => braceAtoms inner fuel isQuoted name use
    | name =>
      if name.head? == some backquote then
        return valueAtoms isQuoted (← inner (String.ofList (name.drop 1)))
      else braceAtoms inner fuel isQuoted name .value

/-- The atoms of a name in braces. -/
def braceAtoms (inner : String → Act String) :
    Nat → (isQuoted : Bool) → (name : List Char) → BraceUse → Act (List Atom)
  | 0, _, _, _ => Act.endless
  | fuel + 1, isQuoted, name, use => do
    let m ← get
    let found := namedValue? m name
    let word := fun (s : List Char) =>
      if isQuoted then atomsOf inner fuel false (innerWord .quoted s)
      else atomsOf inner fuel true (homeGlyphs m false (innerWord .value s))
    let ownOr := fun (other : Act (List Atom)) =>
      match found with
      | some v => pure (v.atoms m isQuoted)
      | none => if m.isOn 'u' then notSet name "parameter not set" else other
    match use with
    | .value => ownOr (pure [])
    | .length =>
      match found with
      | some (.text s) => return valueAtoms isQuoted (toString s.utf8ByteSize)
      | some (.all _ arguments) => return valueAtoms isQuoted (toString arguments.length)
      | none =>
        if m.isOn 'u' then notSet name "parameter not set" else return valueAtoms isQuoted "0"
    | .instead sign countsEmpty s =>
      let isThere := found.any fun v => !(countsEmpty && v.isEmpty)
      match sign, isThere with
      | '+', true => word s
      | '+', false => return []
      | _, true => ownOr (pure [])
      | '-', false => word s
      | '=', false =>
        let value ← textOfWord inner fuel (innerWord (if isQuoted then .quoted else .value) s)
        if !isName name then Act.fail (String.ofList name ++ ": bad variable name")
        checkedAssign (String.ofList name) value
        return valueAtoms isQuoted value
      | _, _ =>
        let reason ← textOfWord inner fuel (innerWord (if isQuoted then .quoted else .value) s)
        notSet name (if !s.isEmpty then reason
          else if countsEmpty then "parameter not set or null" else "parameter not set")
    | .without isEnd isLongest s =>
      let pattern := Pattern.ofPiece (pieceOf (← atomsOf inner fuel false (innerWord .pattern s)))
      let shorten := fun (value : String) =>
        let cs := value.toList
        String.ofList (if isEnd then
            match pattern.lengthWithoutEnd? isLongest cs with
            | some n => cs.take n
            | none => cs
          else cs.drop ((pattern.prefixLength? isLongest cs).getD 0))
      match found with
      | some (.text value) => return valueAtoms isQuoted (shorten value)
      | some (.all isJoined arguments) =>
        return (NamedValue.all isJoined (arguments.map shorten)).atoms m isQuoted
      | none =>
        if m.isOn 'u' then notSet name "parameter not set" else return []

end

/-- How deeply expansions may stand inside of each other. -/
def expansionLimit : Nat :=
  200

/-- A word as a piece that is not taken apart. -/
def expandPiece (inner : String → Act String) (w : Word) : Act Piece := do
  return pieceOf (← atomsOf inner expansionLimit false (homeGlyphs (← get) false w))

/-- A word as one text. -/
def expandText (inner : String → Act String) (w : Word) : Act String := do
  return textOf (← expandPiece inner w)

/-- The value of a variable that a word gives. -/
def expandValue (inner : String → Act String) (w : Word) : Act String := do
  return textOf (pieceOf (← atomsOf inner expansionLimit false (homesOfValue (← get) [] w)))

/-- The words that a word becomes. -/
def expand (inner : String → Act String) (w : Word) : Act (List String) := do
  let m ← get
  let atoms ← atomsOf inner expansionLimit false (homeGlyphs m false (withoutIdleQuotes m w))
  let m ← get
  let signs := (m.value? "IFS").getD " \t\n"
  let pieces := fieldsOf signs.toList atoms
  if m.isOn 'f' then return pieces.map textOf else return pieces.flatMap (pathsOf m)

/-- The words that words become. -/
def expandAll (inner : String → Act String) : List Word → Act (List String)
  | [] => return []
  | w :: rest => do return (← expand inner w) ++ (← expandAll inner rest)

end ProjectCheck.Shell
