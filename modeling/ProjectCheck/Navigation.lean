import ProjectCheck.Diagnostic
import ProjectCheck.Text.Place

/-!
# Navigation

Links in source text that may lead nowhere.  A link is an attribute `href` or `to` with a quoted
target; a target is doubtful when it is an absolute path inside the application, other than its
root, and without a fragment.  The table of routes is not consulted.
-/

namespace ProjectCheck.Navigation

open ProjectCheck.Text

/-- The name of a link attribute and its target. -/
structure Link where
  name : String
  target : String
deriving Repr, DecidableEq

/-- A link at the front of a text that follows a character. -/
def takeLink? (before : Option Char) (s : List Char) : Option (Link × List Char) :=
  if beginsWord before then do
    let (name, rest) ← afterOneOf? ["href", "to"] s
    match ← afterPrefix? ['='] rest with
    | [] => none
    | quote :: body =>
      if quote == '\'' || quote == '"' then
        let inside := fun c => c != '\'' && c != '"'
        match body.takeWhile inside, body.dropWhile inside with
        | [], _ => none
        | _, [] => none
        | target, _ :: after => return (⟨name, String.ofList target⟩, after)
      else none
  else none

/-- Whether a target may lead to a page that does not exist. -/
def isDoubtful (target : String) : Bool :=
  match target.toList with
  | ['/'] => false
  | '/' :: '/' :: _ => false
  | '/' :: rest => !rest.contains '#'
  | _ => false

/-- The finding about a link. -/
def finding (path : String) (link : Find Link) : Diagnostic :=
  { subject := .brokenRoute (.text link.content.target)
    category := .navigation
    message := .text ("Potentially broken route: " ++ link.content.target)
    severity := .low
    autoFixable := .bool true
    details :=
      .record [("link_attribute", .text link.content.name), ("line", .ofNat link.line)]
    file := .text path
    line := .ofNat link.line }

/-- The findings about the links of a text. -/
def find (path content : String) : List Diagnostic :=
  ((finds takeLink? content.toList).filter fun link => isDoubtful link.content.target).map
    (finding path)

end ProjectCheck.Navigation
