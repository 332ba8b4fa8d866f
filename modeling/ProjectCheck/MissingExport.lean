import ProjectCheck.Diagnostic
import ProjectCheck.Path
import ProjectCheck.Text.Place

/-!
# Missing exports

Entry components that a file declares and does not export.  A file with a default export is fine.
Otherwise every entry component that is neither exported by its declaration nor named in an export
clause is reported once, at its first declaration.  An application root that declares the root
component gets one critical finding for it at the end instead, since the start-up code imports it
by default.
-/

namespace ProjectCheck.MissingExport

open ProjectCheck.Text

/-- The components that other files import by convention. -/
def entryComponents : List String :=
  ["App", "Main", "Home", "Index"]

/-- The component of an application root. -/
def rootComponent : String :=
  "App"

/-- The names of the files that hold an application root. -/
def rootFiles : List String :=
  ["App.tsx", "App.jsx"]

/-! ## What a file exports -/

/-- Whether a text has a default export. -/
def hasDefaultExport (content : List Char) : Bool :=
  somewhere (fun _ s =>
    ((do
      let rest ← afterPrefix? "default".toList (← dropBlanks? (← afterPrefix? "export".toList s))
      dropBlanks? rest) : Option (List Char)).isSome) content

/-- The items of an export clause at the front. -/
def takeExportClause? (s : List Char) : Option (List Char × List Char) := do
  let afterWord := trimStart (← afterPrefix? "export".toList s)
  let opening := trimStart (dropLead "type".toList afterWord)
  let items ← afterPrefix? ['\x7b'] opening
  match items.dropWhile (· != '\x7d') with
  | [] => none
  | _ :: rest => return (items.takeWhile (· != '\x7d'), rest)

/-- The local name of an item of an export clause. -/
def localName (item : List Char) : List Char :=
  trim ((splitOn " as ".toList (trim item)).headD [])

/-- The local names in the export clauses of a text. -/
def exportedNames (content : List Char) : List (List Char) :=
  ((finds (fun _ s => takeExportClause? s) content).flatMap fun clause =>
    (pieces ',' clause.content).map localName).filter (· != [])

/-! ## What a file declares -/

/-- Whether a character is a capital letter of ASCII. -/
def isAsciiCapital (c : Char) : Bool :=
  'A' ≤ c && c ≤ 'Z'

/-- A component declared at the start of a line. -/
structure ComponentDeclaration where
  exported : Bool
  name : String
deriving Repr, DecidableEq

/-- Drops a word and the blanks behind it, if both are there. -/
def afterWord? (word : String) (s : List Char) : Option (List Char) :=
  (afterPrefix? word.toList s).bind dropBlanks?

/-- Reads a line as the start of the declaration of a component. -/
def declaration? (line : List Char) : Option ComponentDeclaration := do
  let exported := afterWord? "export" line
  let unprefixed := exported.getD line
  let body := (afterWord? "async" unprefixed).getD unprefixed
  let (_, afterKeyword) ← afterOneOf? ["function", "const", "let", "var"] body
  match ← dropBlanks? afterKeyword with
  | [] => none
  | c :: rest =>
    if isAsciiCapital c then
      return ⟨exported.isSome, String.ofList (c :: rest.takeWhile Char.isAlphanum)⟩
    else none

/-- Whether a text declares the root component as a function or a constant. -/
def declaresRoot (content : List Char) : Bool :=
  somewhere (fun before s =>
    beginsWord before &&
      ((do
        let (_, afterKeyword) ← afterOneOf? ["function", "const"] s
        let rest ← afterPrefix? rootComponent.toList (← dropBlanks? afterKeyword)
        return endsWord rest) : Option Bool).getD false) content

/-- Whether a file is an application root. -/
def isRoot (path : String) (content : List Char) : Bool :=
  rootFiles.contains (String.ofList (Path.lastSegment path.toList)) && declaresRoot content

/-! ## Findings -/

/-- The finding about a component that is declared on a line and not exported. -/
def missingExport (path name : String) (number : Nat) (line : List Char) : Diagnostic :=
  { subject := .missingImport (.text name)
    category := .imports
    message := .text ("Missing export for " ++ name ++ " component")
    severity := .high
    autoFixable := .bool true
    details :=
      .record
        [("component_name", .text name), ("line", .ofNat number),
         ("suggestion", .text ("Add 'export default " ++ name ++ "' or 'export \x7b " ++ name ++
            " \x7d'")),
         ("original_line", .text (String.ofList (trim line)))]
    file := .text path
    line := .ofNat number }

/-- The finding about an application root whose component is not exported by default. -/
def missingRootExport (path : String) : Diagnostic :=
  { subject := .missingImport (.text rootComponent)
    category := .imports
    message := .text ("Missing export default for " ++ rootComponent ++ " component")
    severity := .critical
    autoFixable := .bool true
    details :=
      .record
        [("component_name", .text rootComponent),
         ("suggestion",
          .text ("Add export default " ++ rootComponent ++ " at the end of the file")),
         ("issue", .text (rootComponent ++
            " component is not exported, causing import errors in the app entry point"))]
    file := .text path }

/-- The component that a line declares and that is to be reported, given the names that need no
report. -/
def unexported? (settled : List String) (line : List Char) : Option String := do
  let declared ← declaration? line
  if declared.exported || !entryComponents.contains declared.name ||
      settled.contains declared.name then none
  else return declared.name

/-- The findings about lines, the first of which has the given number. -/
def findingsFrom (path : String) (settled : List String) (number : Nat) :
    List (List Char) → List Diagnostic
  | [] => []
  | line :: rest =>
    match unexported? settled line with
    | none => findingsFrom path settled (number + 1) rest
    | some name =>
      missingExport path name number line ::
        findingsFrom path (name :: settled) (number + 1) rest

/-- The findings about entry components that a file declares and does not export. -/
def find (path content : String) : List Diagnostic :=
  let text := content.toList
  if hasDefaultExport text then []
  else
    let root := isRoot path text
    let named := (exportedNames text).map String.ofList
    findingsFrom path (if root then rootComponent :: named else named) 1 (pieces '\n' text) ++
      (if root then [missingRootExport path] else [])

end ProjectCheck.MissingExport
