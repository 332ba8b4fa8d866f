import ProjectCheck.Text.Cut

/-!
# Paths

Paths with slashes between their segments, seen as texts.  The empty segment and the segment `.`
stand for nothing.
-/

namespace ProjectCheck.Path

open ProjectCheck.Text

/-- The extensions of source files, in the order in which they are tried. -/
def sourceExtensions : List String :=
  [".ts", ".tsx", ".js", ".jsx"]

/-- The extensions tried for the index file of a directory. -/
def indexExtensions : List String :=
  [".ts", ".tsx"]

/-- Whether a path is that of a source file. -/
def isSource (path : String) : Bool :=
  sourceExtensions.any fun extension => extension.toList.isSuffixOf path.toList

/-- The segments of a path that stand for something. -/
def segments (path : List Char) : List (List Char) :=
  (pieces '/' path).filter fun segment => segment != [] && segment != ['.']

/-- The last segment of a path, empty if there is none. -/
def lastSegment (path : List Char) : List Char :=
  (segments path).getLast?.getD []

/-- Drops an extension of source files from the end of a path. -/
def dropSourceExtension (path : List Char) : List Char :=
  match sourceExtensions.find? fun extension => extension.toList.isSuffixOf path with
  | some extension => path.take (path.length - extension.length)
  | none => path

/-- Drops all leading pairs of a dot and a slash. -/
def dropDotSlashes : List Char → List Char
  | '.' :: '/' :: rest => dropDotSlashes rest
  | path => path

/-- The slashes that a path begins with, as far as they mean anything. -/
def rootOf : List Char → List Char
  | ['/', '/'] => ['/', '/']
  | '/' :: '/' :: c :: _ => if c == '/' then ['/'] else ['/', '/']
  | '/' :: _ => ['/']
  | _ => []

/-- A path made of its root and its segments. -/
def ofSegments (root : List Char) (segments : List (List Char)) : List Char :=
  if root.isEmpty && segments.isEmpty then ['.'] else root ++ joinWith ['/'] segments

/-- A path without the segments that stand for nothing. -/
def tidy (path : List Char) : List Char :=
  ofSegments (rootOf path) (segments path)

/-- Whether a path is absolute. -/
def isAbsolute (path : List Char) : Bool :=
  path.head? == some '/'

end ProjectCheck.Path
