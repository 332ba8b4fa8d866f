import ProjectCheck.Diagnostic
import ProjectCheck.Text.Place

/-!
# Message templates

A template is a text with places for the offending line, written `\x7bline\x7d`; doubled braces
stand for single ones.  Reading a template says why it is unusable, if it is.
-/

namespace ProjectCheck.Content

/-- A part of a template. -/
inductive TemplatePart where
  | literal (s : String)
  | line
deriving Repr, DecidableEq, Inhabited

/-- A text with places for a line. -/
abbrev Template := List TemplatePart

/-- Why a template is unusable. -/
inductive TemplateFault where
  /-- A brace is not closed, or was not opened. -/
  | brace
  /-- A place has no name, or a number for a name. -/
  | position
  /-- A place has a name that stands for nothing. -/
  | unknownName
deriving Repr, DecidableEq

namespace Template

/-- The text of a template for a line. -/
def fill (template : Template) (line : String) : String :=
  String.join (template.map fun
    | .literal s => s
    | .line => line)

/-- The part that a place stands for. -/
def place (name : List Char) : Except TemplateFault TemplatePart :=
  if name == "line".toList then .ok .line
  else if name.isEmpty || name.all Char.isDigit then .error .position
  else if name.contains '\x7b' then .error .brace
  else .error .unknownName

/-- Reads a template; `literal` is the literal in progress, in reverse. -/
def readFrom : Nat → List Char → List Char → Except TemplateFault Template
  | 0, literal, _ => .ok [.literal (String.ofList literal.reverse)]
  | _ + 1, literal, [] => .ok [.literal (String.ofList literal.reverse)]
  | fuel + 1, literal, '\x7b' :: '\x7b' :: rest => readFrom fuel ('\x7b' :: literal) rest
  | fuel + 1, literal, '\x7d' :: '\x7d' :: rest => readFrom fuel ('\x7d' :: literal) rest
  | fuel + 1, literal, '\x7b' :: rest =>
    match rest.dropWhile (· != '\x7d') with
    | [] => .error .brace
    | _ :: after => do
      let part ← place (rest.takeWhile (· != '\x7d'))
      let parts ← readFrom fuel [] after
      return .literal (String.ofList literal.reverse) :: part :: parts
  | _ + 1, _, '\x7d' :: _ => .error .brace
  | fuel + 1, literal, c :: rest => readFrom fuel (c :: literal) rest

/-- Reads a template. -/
def read (s : String) : Except TemplateFault Template :=
  readFrom (s.length + 1) [] s.toList

end Template

/-!
## Patterns of risky lines

The shapes that the content rules look for in one line of source text.
-/

open ProjectCheck.Text

/-- A directive that switches type checking off. -/
def suppressesChecks (line : List Char) : Bool :=
  occursIn "@ts-ignore".toList line

/-- A cast to `any`. -/
def castsToAny (line : List Char) : Bool :=
  somewhere (fun before s =>
    beginsWord before &&
      ((do
        let rest ← afterPrefix? "any".toList (← dropBlanks? (← afterPrefix? ['a', 's'] s))
        return endsWord rest) : Option Bool).getD false) line

/-- A variable declared by `var`. -/
def declaresVar (line : List Char) : Bool :=
  somewhere (fun before s =>
    beginsWord before &&
      ((do
        let rest ← dropBlanks? (← afterPrefix? "var".toList s)
        return isWordSide rest.head?) : Option Bool).getD false) line

/-- A comparison by `==` or `!=` that is not part of a longer operator. -/
def comparesLoosely (line : List Char) : Bool :=
  somewhere (fun before s =>
    !(before.any fun c => c == '=' || c == '!' || c == '<' || c == '>') &&
      match afterOneOf? ["==", "!="] s with
      | some (_, rest) => rest.head? != some '='
      | none => false) line

/-- Whether a text ends in blanks or tabs behind something that is not blank. -/
def endsInGap (s : List Char) : Bool :=
  let isGap := fun c => c == ' ' || c == '\t'
  match s.reverse with
  | c :: rest => isGap c && (rest.dropWhile isGap).head?.any (!isBlank ·)
  | [] => false

/-- Blanks or tabs at the end of a line. -/
def hasTrailingGap (line : List Char) : Bool :=
  endsInGap line || (line.getLast? == some '\n' && endsInGap line.dropLast)

/-- A text in which a log call stands before or after a word about debugging. -/
def logsWhileDebugging (s : List Char) : Bool :=
  let call := "console.log".toList
  let hasWord := fun s => ["debug", "development", "TODO"].any fun word => occursIn word.toList s
  (match cutAt? call s with
    | some (_, rest) => hasWord rest
    | none => false) ||
  somewhere (fun _ s =>
    match afterOneOf? ["debug", "development", "TODO"] s with
    | some (_, rest) => occursIn call rest
    | none => false) s

/-- A log call that is there for debugging. -/
def isDebugLogging (line : List Char) : Bool :=
  (pieces '\n' line).any logsWhileDebugging

/-!
## Content rules

A content rule is a shape that a line of source text may have, with what is reported about it.  A
line is passed over when the rule skips comments and the line is one or carries one, or when one of
the rule's exclusions holds of it.
-/

/-- A shape of risky lines with what is reported about them. -/
structure Rule where
  id : String
  pattern : List Char → Bool
  severity : Severity := .low
  autoFixable : Bool := true
  category : Category := .typeScript
  message : Template
  exclusions : List (List Char → Bool) := []
  skipCommentLines : Bool := true
  skipInlineComments : Bool := false

namespace Rule

/-- Whether a line without surrounding blanks is a comment or the inside of one. -/
def isCommentLine (line : List Char) : Bool :=
  (afterOneOf? ["//", "*", "/*"] line).isSome

/-- Whether a line carries a comment. -/
def carriesComment (line : List Char) : Bool :=
  occursIn ['/', '/'] line || occursIn ['/', '*'] line

/-- Whether a rule applies to a line. -/
def applies (rule : Rule) (line : List Char) : Bool :=
  let body := trim line
  !(rule.skipCommentLines && isCommentLine body) &&
    !(rule.skipInlineComments && carriesComment body) &&
    !(rule.exclusions.any (· line)) &&
    rule.pattern line

/-- What a rule says about a line. -/
def describe (rule : Rule) (line : List Char) : String :=
  rule.message.fill (String.ofList (trim line))

end Rule

/-! ## The rules -/

/-- Lines that bypass the type checker. -/
def typeRiskRules : List Rule :=
  let message : Template := [.literal "Potential TypeScript error: ", .line]
  [ { id := "ts-ignore"
      pattern := suppressesChecks
      message
      -- the directive is itself a comment
      skipCommentLines := false },
    { id := "as-any"
      pattern := castsToAny
      message } ]

/-- Lines that break conventions of style. -/
def lintRiskRules : List Rule :=
  [("no-var", declaresVar), ("eqeqeq", comparesLoosely),
    ("no-trailing-spaces", hasTrailingGap)].map fun (id, pattern) =>
      { id
        pattern
        category := .eslint
        message := [.literal "Potential ESLint violation: ", .line]
        exclusions := [isDebugLogging]
        skipInlineComments := true }

/-- Messages of tools that are never a problem. -/
def benignMessages : List String :=
  ["Fast refresh only works when a file only exports components"]

/-- Whether a text holds a message that is never a problem. -/
def isBenign (s : List Char) : Bool :=
  benignMessages.any fun message => occursIn message.toList s

end ProjectCheck.Content
