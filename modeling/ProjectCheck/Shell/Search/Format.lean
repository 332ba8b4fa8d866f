import ProjectCheck.Shell.Changes
import ProjectCheck.Shell.Listing
import ProjectCheck.Shell.Printing

/-!
# What is shown of a path that is found

A search may print the paths that it finds in a format: a text in which a letter behind a percent sign stands
for something that is known of the path.
-/

namespace ProjectCheck.Shell

open ProjectCheck.Disk ProjectCheck.Number ProjectCheck.Text

/-! ## Paths that are found -/

/-- A path that a search has come to. -/
structure FoundPath where
  /-- The path that the search began with. -/
  start : String
  path : String
  /-- How many names it is below the start. -/
  depth : Nat := 0
  location : Location
  /-- What stands there, a link being followed if the search follows it. -/
  node : Node
  mode : Mode

namespace FoundPath

/-- A path without slashes at its end, unless it is the top. -/
def trimmed (path : String) : String :=
  let s := dropEndWhile (· == '/') path.toList
  if s.isEmpty && !path.isEmpty then "/" else String.ofList s

/-- The last name of the path. -/
def name (f : FoundPath) : String :=
  let whole := trimmed f.path
  if whole == "/" then whole else finalName whole

/-- The last name of the path with the slashes behind it. -/
def nameShown (f : FoundPath) : String :=
  if trimmed f.path == "/" then f.path
  else f.name ++ String.ofList (f.path.toList.drop (trimmed f.path).length)

/-- The path of the directory that the path is in. -/
def above (f : FoundPath) : String :=
  let whole := (trimmed f.path).toList
  if !whole.contains '/' then "."
  else String.ofList ((whole.reverse.dropWhile (· != '/')).drop 1).reverse

/-- The path below the start. -/
def below (f : FoundPath) : String :=
  let rest := f.path.toList.drop f.start.length
  String.ofList (if rest.head? == some '/' then rest.drop 1 else rest)

/-- What is known of the path as a list shows it. -/
def listed (f : FoundPath) : Listed :=
  ⟨f.path, f.node, f.mode⟩

/-- The letter of a kind. -/
def kindLetter : Node → Char
  | .directory _ => 'd'
  | .link _ => 'l'
  | .file _ => 'f'

end FoundPath

/-! ## Formats -/

/-- A part of a format. -/
inductive FormatPart where
  | text (text : String)
  | detail (form : FormatForm) (letter : Char)
  /-- Nothing behind it is printed. -/
  | stop
deriving Repr, DecidableEq

namespace FormatPart

/-- The letters that stand for something. -/
def letters : List Char :=
  "abcdDfFgGhHiklmMnpPsStuUyYZ".toList

/-- The letters that need another one behind them. -/
def timeLetters : List Char :=
  "ABCT".toList

/-- The parts of a format with what is warned of in it; `text` is the text that has begun, in reverse
order. -/
def read (fuel : Nat) (text : List Char) (s : List Char) : Except String (List FormatPart × List String) :=
  match fuel with
  | 0 => .ok ([], [])
  | fuel + 1 =>
    let own := if text.isEmpty then [] else [FormatPart.text (String.ofList text.reverse)]
    let add := fun (shown : List Char) (rest : List Char) => read fuel (shown.reverse ++ text) rest
    let warn := fun (warning : String) (all : List FormatPart × List String) => (all.1, warning :: all.2)
    match s with
    | [] => .ok (own, [])
    | ['\\'] => (add ['\\'] []).map (warn "escape \x60\\' followed by nothing at all")
    | '\\' :: c :: rest =>
      let digits := (c :: rest).takeWhile isOctal |>.take 3
      if !digits.isEmpty then
        add [Char.ofNat (octalByte digits).toNat] ((c :: rest).drop digits.length)
      else if c == 'c' then .ok (own ++ [stop], [])
      else
        match letterByte? c with
        | some b => add [Char.ofNat b.toNat] rest
        | none =>
          (add ['\\', c] rest).map (warn ("unrecognized escape \x60\\" ++ String.singleton c ++ "'"))
    | '%' :: '%' :: rest => add ['%'] rest
    | ['%'] => .error "% at end of format string"
    | '%' :: rest =>
      let signs := rest.takeWhile "-+ #0".toList.contains
      let (width, behind) := takeAsciiDigits (rest.drop signs.length)
      let (precision, behind) := match behind with
        | '.' :: behind =>
          let (digits, behind) := takeAsciiDigits behind
          (some (asciiValue digits), behind)
        | behind => (none, behind)
      let letter := behind.head?.getD '\x00'
      let after := behind.drop 1
      let length := s.length - after.length
      if "\x7b[(\x00".toList.contains letter then
        .error ("the format directive \x60%" ++ String.singleton letter ++ "' is reserved for future use")
      else if letters.contains letter then
        (read fuel [] after).map fun (parts, warnings) =>
          (own ++ detail { signs, width := asciiValue width, precision } letter :: parts, warnings)
      else if timeLetters.contains letter then
        if after.isEmpty then
          (add (s.take length) after).map (warn ("format directive \x60%" ++ String.singleton letter ++
            "' should be followed by another character"))
        else (read fuel [] (after.drop 1)).map fun (parts, warnings) => (own ++ parts, warnings)
      else
        (add (s.take length) after).map (warn ("unrecognized format directive \x60%" ++
          String.singleton letter ++ "'"))
    | c :: rest => add [c] rest

/-- What a letter stands for. -/
def shownOf (m : Machine) (f : FoundPath) (letter : Char) : String :=
  let l := f.listed
  match letter with
  | 'p' => f.path
  | 'f' => f.nameShown
  | 'h' => f.above
  | 'P' => f.below
  | 'H' => f.start
  | 's' => toString l.size
  | 'b' => toString (2 * l.room)
  | 'k' => toString l.room
  | 'n' => toString l.linkCount
  | 'M' => String.singleton l.kindSign ++ l.mode.shown
  | 'u' => "root"
  | 'g' => "root"
  | 'U' => "0"
  | 'G' => "0"
  | 'l' => f.node.target?.getD ""
  | 'y' => String.singleton (FoundPath.kindLetter f.node)
  | 'Y' =>
    match f.node.target?, m.reach f.path with
    | none, _ => String.singleton (FoundPath.kindLetter f.node)
    | some _, .ok node => String.singleton (FoundPath.kindLetter node)
    | some _, .error .endlessLinks => "L"
    | some _, .error _ => "N"
  | _ => ""

/-- A path in a format. -/
def shownIn (m : Machine) (f : FoundPath) : List FormatPart → List UInt8
  | [] => []
  | text t :: rest => bytesOf t ++ shownIn m f rest
  | stop :: _ => []
  | detail form letter :: rest =>
    let own := match letter with
      | 'd' => form.integer 'd' f.depth
      | 'm' => form.integer 'o' f.mode
      | _ =>
        let shown := bytesOf (shownOf m f letter)
        form.padded (shown.take (form.precision.getD shown.length))
    own ++ shownIn m f rest

end FormatPart

end ProjectCheck.Shell
