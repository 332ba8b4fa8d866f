import ProjectCheck.Shell.Token

/-!
# Scripts

A script is what the tokens of a command mean: simple commands, joined by pipes, by the outcome of
the one before or by order alone, in groups, loops, branches and functions.  Where something may be
said about a command while it runs, the script knows its line.
-/

namespace ProjectCheck.Shell

/-- A redirection of a stream to what a word names. -/
structure Redirect where
  stream : Option Nat
  direction : Direction
  target : Word
deriving Repr, DecidableEq

/-- A script. -/
inductive Script where
  /-- A command with the assignments in front of it. -/
  | simple (line : Nat) (assignments : List (String × Word)) (words : List Word)
      (redirects : List Redirect)
  /-- A script with redirections that count for all of it. -/
  | redirected (line : Nat) (body : Script) (redirects : List Redirect)
  /-- A script that changes nothing outside of it. -/
  | group (line : Nat) (body : Script) (redirects : List Redirect)
  /-- A script for as long as a test succeeds, or until it does. -/
  | loop (isUntil : Bool) (test body : Script)
  /-- A script for each value that a variable is to have; without values, for each argument. -/
  | loopOver (line : Nat) (name : String) (values : Option (List Word)) (body : Script)
  | branch (test body : Script) (otherwise : Option Script)
  /-- The script of the first case of which a pattern fits a word. -/
  | choice (line : Nat) (subject : Word) (cases : List (List Word × Option Script))
  /-- Gives a script a name. -/
  | define (line : Nat) (name : String) (body : Script)
  | pipe (first : Script) (others : List Script)
  /-- A script that is not waited for. -/
  | background (inner : Script)
  | andThen (first second : Script)
  | orElse (first second : Script)
  | negate (inner : Script)
  | sequence (first second : Script)
deriving Repr, Inhabited

/-! ## Places of tokens -/

/-- A token, or the end of the text, with the line on which it ends. -/
structure Placed where
  line : Nat
  token : Option Token
  /-- The names that the token stands for together with others. -/
  origins : List String := []
  /-- The token stands behind a name that leaves it open what the next word is. -/
  isOpen : Bool := false
deriving Repr, DecidableEq

/-- How many line ends a glyph holds. -/
def Glyph.lineEnds : Glyph → Nat
  | .bare c => if c == '\n' then 1 else 0
  | .quoted c => if c == '\n' then 1 else 0
  | .quote => 0
  | .expansion text _ => text.count '\n'

/-- How many line ends a word holds. -/
def Word.lineEnds (w : Word) : Nat :=
  w.foldl (fun n g => n + g.lineEnds) 0

/-- Tokens with their lines, from a line on.  The lines of a document count where the line ends that
announces it; `below` lines wait for that. -/
def placedFrom (last line below : Nat) : List Token → List Placed
  | [] => [{ line := last, token := none }]
  | .operator .newline :: rest =>
    { line := line + 1, token := some (.operator .newline) } ::
      placedFrom last (line + 1 + below) 0 rest
  | .operator (.redirect stream .document) :: .word body :: rest =>
    { line, token := some (.operator (.redirect stream .document)) } ::
      { line, token := some (.word body) } ::
      placedFrom last line (below + body.lineEnds + 1) rest
  | .word w :: rest =>
    { line := line + w.lineEnds, token := some (.word w) } :: placedFrom last (line + w.lineEnds) below rest
  | .lack what :: rest =>
    { line := last, token := some (.lack what) } :: placedFrom last line below rest
  | .operator o :: rest => { line, token := some (.operator o) } :: placedFrom last line below rest

/-- The tokens of a text with their lines. -/
def placedTokens (text : String) : List Placed :=
  placedFrom (1 + text.toList.count '\n') 1 0 (tokens text)

/-! ## Faults -/

/-- What is wrong with tokens. -/
inductive Complaint where
  /-- A token stands where another, or no such token, should be. -/
  | unexpected (found : String) (wanted : Option String)
  | lack (what : Lack)
  | badLoopVariable
  | badFunctionName
deriving Repr, DecidableEq

/-- Why tokens mean no script, and on which line that shows. -/
structure SyntaxFault where
  line : Nat
  complaint : Complaint
deriving Repr, DecidableEq

/-- What a shell says of a text that ends too early. -/
def Lack.message : Lack → String
  | quotation => "Unterminated quoted string"
  | brace => "Missing '\x7d'"
  | parenthesis => "end of file unexpected (expecting \")\")"
  | twoParentheses => "Missing '))'"
  | backquote => "EOF in backquote substitution"

/-- What a shell says of tokens that mean no script. -/
def Complaint.message : Complaint → String
  | unexpected found none => found ++ " unexpected"
  | unexpected found (some wanted) => found ++ " unexpected (expecting " ++ wanted ++ ")"
  | lack what => what.message
  | badLoopVariable => "Bad for loop variable"
  | badFunctionName => "Bad function name"

/-! ## Reserved words -/

/-- The words that have a meaning where a command may begin. -/
def reservedWords : List String :=
  ["!", "case", "do", "done", "elif", "else", "esac", "fi", "for", "if", "in", "then", "until",
   "while", "\x7b", "\x7d"]

/-- The words that end a list of commands. -/
def closingWords : List String :=
  ["do", "done", "elif", "else", "esac", "fi", "then", "\x7d"]

/-- The text of a token that is a bare word. -/
def Token.bare? : Token → Option String
  | word w => w.bare?.map String.ofList
  | _ => none

/-- The reserved word that a token is. -/
def Token.reserved? (t : Token) : Option String :=
  t.bare?.filter reservedWords.contains

/-- A text between double quotes. -/
def named (s : String) : String :=
  "\"" ++ s ++ "\""

/-- What a token is called in a complaint. -/
def Token.shown (t : Token) : String :=
  match t with
  | word _ => (t.reserved?.map named).getD "word"
  | lack _ => "end of file"
  | operator o =>
    match o with
    | .newline => "newline"
    | .semicolon => named ";"
    | .caseEnd => named ";;"
    | .ampersand => named "&"
    | .pipe => named "|"
    | .andThen => named "&&"
    | .orElse => named "||"
    | .opening => named "("
    | .closing => named ")"
    | .redirect .. => "redirection"

/-- Whether a list of commands ends in front of a token. -/
def Token.endsList (t : Token) : Bool :=
  match t with
  | operator .closing => true
  | operator .caseEnd => true
  | _ => t.reserved?.any closingWords.contains

end ProjectCheck.Shell
