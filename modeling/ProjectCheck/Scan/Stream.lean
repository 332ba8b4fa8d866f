import ProjectCheck.Scan.Command

/-!
# Streams of files

A stream holds files one after the other, each between an opening and a closing delimiter, as

    opening, line feed, path, line feed, content, closing

`decode` takes a stream apart.  What stands before the first opening is noise, and a file whose
closing is missing was cut off; both are passed over.  A file whose content is the mark for
unreadable files is named separately, and one without content is left out, since there is nothing
to look at.
-/

namespace ProjectCheck.Scan

open ProjectCheck.Text

/-- A file with its content. -/
structure ScannedFile where
  path : String
  content : String
deriving Repr, DecidableEq, Inhabited

/-- The files of a stream. -/
structure Stream where
  files : List ScannedFile := []
  /-- The paths of the files that could not be read. -/
  skipped : List String := []
deriving Repr, DecidableEq, Inhabited

/-- What a block of a stream holds. -/
inductive Block where
  | file (path content : List Char)
  | unreadable (path : List Char)
  /-- A block that was cut off, or that has no path or no content. -/
  | nothing
deriving Repr, DecidableEq

/-- A text without the line end at its front. -/
def dropLineEnd : List Char → List Char
  | '\r' :: '\n' :: rest => rest
  | '\n' :: rest => rest
  | s => s

/-- The first line of a text and the text after it. -/
def firstLine (s : List Char) : List Char × List Char :=
  (s.takeWhile (· != '\n'), (s.dropWhile (· != '\n')).drop 1)

/-- What stands between the delimiters of a block: a path and a content. -/
def Block.ofBody (unreadable : List Char) (body : List Char) : Block :=
  let (line, content) := firstLine (dropLineEnd body)
  let path := trim line
  if path.isEmpty then .nothing
  else if trim content == unreadable then .unreadable path
  else if isBlankText content then .nothing
  else .file path content

/-- What follows an opening delimiter, up to the next one. -/
def Block.ofText (closing unreadable : List Char) (text : List Char) : Block :=
  match cutAt? closing text with
  | none => .nothing
  | some (body, _) => .ofBody unreadable body

/-- The file of a block, if it has one. -/
def Block.file? : Block → Option ScannedFile
  | .file path content => some ⟨String.ofList path, String.ofList content⟩
  | _ => none

/-- The path of a block whose file could not be read, if it has one. -/
def Block.unreadable? : Block → Option String
  | .unreadable path => some (String.ofList path)
  | _ => none

/-- The blocks of a stream. -/
def blocks (framing : Framing) (text : String) : List Block :=
  ((splitOn framing.opening.toList text.toList).drop 1).map
    (.ofText framing.closing.toList framing.unreadable.toList)

/-- The files of a stream. -/
def Stream.decode (framing : Framing) (text : String) : Stream :=
  { files := (blocks framing text).filterMap Block.file?
    skipped := (blocks framing text).filterMap Block.unreadable? }

/-- The files of a stream; an empty opening delimiter takes nothing apart. -/
def Stream.decode? (framing : Framing) (text : String) : Option Stream :=
  if framing.opening.isEmpty then none else some (.decode framing text)

/-- The paths of the files of a stream. -/
def Stream.paths (stream : Stream) : List String :=
  stream.files.map (·.path)

end ProjectCheck.Scan
