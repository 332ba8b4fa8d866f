import ProjectCheck.Path
import ProjectCheck.Text.Cut
import ProjectCheck.Text.Place

/-!
# Targets

The paths, still without extension, that a specifier may point at: an alias replacement below the
base directory, or a relative path seen from the importing file.
-/

namespace ProjectCheck.Resolution

open ProjectCheck.Text

/-- A replacement path below a base directory.  A base of nothing or a single dot adds nothing. -/
def joinBaseUrl (baseUrl : Option String) (path : String) : String :=
  let clean := Path.dropDotSlashes path.toList
  match baseUrl with
  | none => String.ofList clean
  | some base =>
    match Path.dropDotSlashes (dropEndWhile (· == '/') base.toList) with
    | [] => String.ofList clean
    | ['.'] => String.ofList clean
    | directory => String.ofList (directory ++ '/' :: clean)

/-- The directory part of a path: what stands before its last slash. -/
def directoryOf (path : List Char) : List Char :=
  ((path.reverse.dropWhile (· != '/')).drop 1).reverse

/-- The target of a relative specifier.  Each leading `..` drops one directory of the importing
file, none once they are used up. -/
def relativeTarget (specifier origin : String) : String :=
  let directories := Path.segments (directoryOf origin.toList)
  let parts := Path.segments specifier.toList
  let ups := parts.takeWhile (· == ['.', '.'])
  let kept := directories.take (directories.length - ups.length)
  let remaining := joinWith ['/'] (parts.drop ups.length)
  String.ofList (if kept.isEmpty then remaining else joinWith ['/'] (kept ++ [remaining]))

/-!
## Alias patterns

An alias pattern matches a specifier literally but for its first star, which stands for any text
without a line feed; further stars stand for themselves.  A single line feed at the end of the
specifier is allowed and belongs to no part.
-/

/-- A pattern around its star, or without one. -/
inductive AliasPattern where
  | exact (text : List Char)
  | wildcard (head tail : List Char)
deriving Repr, DecidableEq

/-- How a specifier matches a pattern: what the star stands for, if there is one. -/
inductive AliasMatch where
  | whole
  | capture (text : List Char)
deriving Repr, DecidableEq

namespace AliasPattern

/-- The pattern that a text stands for. -/
def ofText (pattern : List Char) : AliasPattern :=
  match cutAt? ['*'] pattern with
  | none => exact pattern
  | some (head, tail) => wildcard head tail

/-- What stands between a head and a tail. -/
def between? (head tail s : List Char) : Option (List Char) :=
  match afterPrefix? head s with
  | none => none
  | some rest =>
    if tail.isSuffixOf rest then
      let inside := rest.take (rest.length - tail.length)
      if inside.contains '\n' then none else some inside
    else none

/-- A text without the line feed at its end. -/
def withoutFinalLineFeed? (s : List Char) : Option (List Char) :=
  if s.getLast? == some '\n' then some s.dropLast else none

/-- How a pattern matches a specifier, if it does. -/
def match? (pattern : AliasPattern) (specifier : List Char) : Option AliasMatch :=
  match pattern with
  | exact text =>
    if specifier == text || specifier == text ++ ['\n'] then some .whole else none
  | wildcard head tail =>
    match between? head tail specifier with
    | some inside => some (.capture inside)
    | none =>
      ((withoutFinalLineFeed? specifier).bind (between? head tail)).map AliasMatch.capture

end AliasPattern

namespace AliasMatch

/-- What takes the place of the star in a replacement. -/
def filling : AliasMatch → List Char
  | whole => []
  | capture text => text

end AliasMatch

/-- A replacement with its first star filled. -/
def fillStar (filling : List Char) (replacement : List Char) : List Char :=
  match cutAt? ['*'] replacement with
  | none => replacement
  | some (head, tail) => head ++ filling ++ tail

end ProjectCheck.Resolution
