import ProjectCheck.Diagnostic
import ProjectCheck.Number.Reading
import ProjectCheck.Text.Place

/-!
# Compiler output

Diagnostics printed by the type checker.  A diagnostic begins with a head line

    file(line,column): error TSnnnn: message

and goes on with all lines up to the next one that starts with a location; blank lines and the
closing summary are left out, and the lines of one message are joined by single blanks.  Whatever
stands before the first head line, or after a location that is no error, belongs to no diagnostic.

The file is the shortest text in front of which the rest of the line can be read, so it may hold
parentheses, commas and colons.
-/

namespace ProjectCheck.CompilerOutput

open ProjectCheck.Number ProjectCheck.Text

/-! ## Lines -/

/-- Digits of any script at the front, at least one. -/
def takeDigits? (s : List Char) : Option (List Char × List Char) :=
  match s.takeWhile isDecimal with
  | [] => none
  | digits => some (digits, s.dropWhile isDecimal)

/-- The digits of a line and a column, as in `(12,5):`, at the front. -/
def takeLocation? (s : List Char) : Option ((List Char × List Char) × List Char) := do
  let inside ← afterPrefix? ['('] s
  let (line, afterLine) ← takeDigits? inside
  let (column, afterColumn) ← takeDigits? (← afterPrefix? [','] afterLine)
  let rest ← afterPrefix? [')', ':'] afterColumn
  return ((line, column), rest)

/-- What a reader reads at the first place behind the first character where it succeeds, and the
text in front of that place. -/
def afterSome? {α : Type} (reader : List Char → Option α) :
    List Char → Option (List Char × α)
  | [] => none
  | c :: rest =>
    match reader rest with
    | some found => some ([c], found)
    | none => (afterSome? reader rest).map fun cut => (c :: cut.1, cut.2)

/-- Whether a line starts with a location behind a file. -/
def hasLocation (line : List Char) : Bool :=
  (afterSome? takeLocation? line).isSome

/-- Whether a line is the closing summary, as in `Found 3 errors.` -/
def isSummary (line : List Char) : Bool :=
  ((do
    let (_, afterCount) ← takeDigits? (← afterPrefix? "Found ".toList line)
    let rest ← afterPrefix? " error".toList afterCount
    return endsWord (dropLead ['s'] rest)) : Option Bool).getD false

/-- The head line of a diagnostic. -/
structure Head where
  file : List Char
  line : List Char
  column : List Char
  code : List Char
  message : List Char
deriving Repr, DecidableEq

/-- A location, a code and a message at the front. -/
def takeHead? (s : List Char) : Option Head := do
  let ((line, column), afterLocation) ← takeLocation? s
  let afterWord ← afterPrefix? "error".toList (← dropBlanks? afterLocation)
  let afterMark ← afterPrefix? ['T', 'S'] (← dropBlanks? afterWord)
  let (digits, afterDigits) ← takeDigits? afterMark
  let message ← dropBlanks? (← afterPrefix? [':'] afterDigits)
  if message.isEmpty then none
  else return { file := [], line, column, code := 'T' :: 'S' :: digits, message }

/-- Reads a line without surrounding blanks as a head line. -/
def head? (line : List Char) : Option Head :=
  (afterSome? takeHead? line).map fun (file, head) => { head with file }

/-! ## Diagnostics -/

/-- The severity of a compiler error. -/
def severityOfCode (code : String) : Severity :=
  if code == "TS2307" || code == "TS2339" || code == "TS2345" then .critical
  else if code == "TS2304" || code == "TS2322" then .high
  else .medium

/-- Whether a compiler error can be mended automatically. -/
def isFixableCode (code : String) : Bool :=
  code == "TS2304" || code == "TS2307" || code == "TS2339"

/-- The lines that continue a message among the lines that follow its head. -/
def continuation (following : List (List Char)) : List (List Char) :=
  (following.takeWhile (!hasLocation ·)).filter fun line => !line.isEmpty && !isSummary line

/-- The diagnostic of a head line and the lines that follow it. -/
def diagnosticOf (line : List Char) (head : Head) (following : List (List Char)) :
    Except IntegerFault Diagnostic := do
  let lineNumber ← readDigits head.line
  let columnNumber ← readDigits head.column
  let code := String.ofList head.code
  return {
    subject := .build
    category := .typeScript
    message :=
      .text (String.ofList (joinWith [' '] (trim head.message :: continuation following)))
    severity := severityOfCode code
    autoFixable := .bool (isFixableCode code)
    details :=
      .record
        [("error_code", .text code), ("compiler_output", .text (String.ofList line)),
         ("analysis_type", .text "tsc_compiler")]
    file := .text (String.ofList head.file)
    line := .ofNat lineNumber
    column := .ofNat columnNumber }

/-- The diagnostics of lines without surrounding blanks. -/
def ofLines : List (List Char) → Except IntegerFault (List Diagnostic)
  | [] => .ok []
  | line :: rest =>
    match head? line with
    | none => ofLines rest
    | some head => do
      let diagnostic ← diagnosticOf line head rest
      let others ← ofLines rest
      return diagnostic :: others

/-- The lines of an output, without surrounding blanks. -/
def lines (output : String) : List (List Char) :=
  (pieces '\n' (joinLineEnds output.toList)).map trim

/-- The diagnostics of an output, or the fault of a location with too many digits. -/
def parse (output : String) : Except IntegerFault (List Diagnostic) :=
  ofLines (lines output)

end ProjectCheck.CompilerOutput
