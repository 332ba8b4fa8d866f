import ProjectCheck.Shell.Script
import ProjectCheck.Table

/-!
# Reading scripts

`readCommand` takes one whole command from placed tokens: what stands up to the end of a line, and
further as long as something is open.  A shell runs a command before it reads the next one, so a
fault in a later line does not keep an earlier one from being run.

A name may stand for a text that is put into its place where a command may begin.

Reserved words count only where a command may begin or has just ended.  The readers are bounded by a
number that is computed from the tokens; each step into another takes one off, and no nesting of
readers is deeper than a few times the number of tokens.
-/

namespace ProjectCheck.Shell

/-- The texts that names stand for. -/
abbrev Nicknames :=
  Table String String

/-- A reader of tokens. -/
abbrev Reader :=
  ReaderT Nicknames (StateT (List Placed) (Except SyntaxFault))

namespace Reader

/-- The next token; nothing at the end of the text. -/
def peek : Reader (Option Token) := do
  match ← get with
  | ⟨line, some (.lack what), _, _⟩ :: _ => throw ⟨line, .lack what⟩
  | p :: _ => return p.token
  | [] => return none

/-- The line of the next token. -/
def line : Reader Nat := do
  match ← get with
  | p :: _ => return p.line
  | [] => return 1

/-- Puts what a name stands for in its place, if the next word is such a name and is not itself part of
what it stands for; again as often as that is so, up to a number of times. -/
def replaceNickname : Nat → Reader Unit
  | 0 => pure ()
  | turns + 1 => do
    match ← get with
    | p :: rest =>
      match (p.token.bind Token.bare?).filter fun name =>
          !p.origins.contains name && !reservedWords.contains name with
      | none => pure ()
      | some name =>
        match (← read).lookup name with
        | none => pure ()
        | some text =>
          let own := (tokens text).map fun t : Token =>
            { line := p.line, token := some t, origins := name :: p.origins : Placed }
          let isOpen := text.toList.getLast?.any fun c => c == ' ' || c == '\t'
          set (own ++ (rest.take 1).map (fun p => { p with isOpen := p.isOpen || isOpen }) ++ rest.drop 1)
          replaceNickname turns
    | [] => pure ()

/-- Puts what names stand for in their places where a command may begin. -/
def replaceNicknames : Reader Unit := do
  replaceNickname ((← get).length + (← read).length)

/-- Goes past the next token; the end of the text stays. -/
def advance : Reader Unit :=
  modify fun ps => match ps with
    | [p] => [p]
    | ps => ps.drop 1

/-- Refuses the next token, where perhaps another is wanted. -/
def unexpected {α : Type} (wanted : Option String) : Reader α := do
  let found ← peek
  throw ⟨← line, .unexpected ((found.map Token.shown).getD "end of file") wanted⟩

/-- Refuses the next token where another is wanted and no word is reserved. -/
def wants {α : Type} (wanted : String) : Reader α := do
  match ← peek with
  | some (.word _) => throw ⟨← line, .unexpected "word" (some (named wanted))⟩
  | _ => unexpected (some (named wanted))

/-- The reserved word that comes next. -/
def reserved? : Reader (Option String) := do
  return (← peek).bind Token.reserved?

/-- Goes past a certain operator, if it comes next. -/
def takes (o : Operator) : Reader Bool := do
  if (← peek) == some (.operator o) then advance; return true else return false

/-- Goes past a certain reserved word, if it comes next. -/
def takesReserved (text : String) : Reader Bool := do
  if (← reserved?) == some text then advance; return true else return false

/-- Goes past a certain reserved word, which has to come next. -/
def expectReserved (text : String) : Reader Unit := do
  if !(← takesReserved text) then unexpected (some (named text))

/-- Goes past line ends, at most a number of them. -/
def skipNewlinesUpTo : Nat → Reader Unit
  | 0 => pure ()
  | n + 1 => do if ← takes .newline then skipNewlinesUpTo n

/-- Goes past line ends. -/
def skipNewlines : Reader Unit := do
  skipNewlinesUpTo (← get).length

/-- Goes past a word, which has to come next. -/
def word (wanted : Option String := none) : Reader Word := do
  match ← peek with
  | some (.word w) => advance; return w
  | _ => unexpected wanted

/-- Takes words, at most a number of them. -/
def wordsUpTo : Nat → Reader (List Word)
  | 0 => return []
  | n + 1 => do
    match ← peek with
    | some (.word w) => advance; return w :: (← wordsUpTo n)
    | _ => return []

/-- Takes redirections, at most a number of them. -/
def redirectsUpTo : Nat → Reader (List Redirect)
  | 0 => return []
  | n + 1 => do
    match ← peek with
    | some (.operator (.redirect stream direction)) =>
      advance
      let target ← word
      return ⟨stream, direction, target⟩ :: (← redirectsUpTo n)
    | _ => return []

end Reader

/-- The name and the value of a word that is an assignment; `name` holds what has been read of the
name, in reverse order. -/
def assignment? (name : List Char) : Word → Option (String × Word)
  | .bare c :: rest =>
    if c == '=' then
      if isName name.reverse then some (String.ofList name.reverse, rest) else none
    else if isNameChar c then assignment? (c :: name) rest
    else none
  | _ => none

/-- The names of commands that no function may have. -/
def specialNames : List String :=
  [".", ":", "break", "continue", "eval", "exec", "exit", "export", "readonly", "return", "set",
   "shift", "times", "trap", "unset"]

/-- The name that a word can give to a function. -/
def functionName? (w : Word) : Option String :=
  (w.bare?.filter fun s => isName s && !specialNames.contains (String.ofList s)).map String.ofList

open Reader

/-- Takes the parts of a simple command: assignments, words and redirections. -/
def takeParts : Nat → (List (String × Word) × List Word × List Redirect) →
    Reader (List (String × Word) × List Word × List Redirect)
  | 0, parts => return parts
  | n + 1, (assignments, words, redirects) => do
    if words.isEmpty || (← get).head?.any (·.isOpen) then replaceNicknames
    match ← peek with
    | some (.word w) =>
      advance
      match if words.isEmpty then assignment? [] w else none with
      | some a => takeParts n (assignments ++ [a], words, redirects)
      | none => takeParts n (assignments, words ++ [w], redirects)
    | some (.operator (.redirect stream direction)) =>
      advance
      let target ← word
      takeParts n (assignments, words, redirects ++ [⟨stream, direction, target⟩])
    | _ => return (assignments, words, redirects)

mutual

/-- Takes a list of commands.  On the top level it ends with the line; elsewhere it ends in front of
what closes it, and it may have to hold a command. -/
def takeList (isTop mayBeEmpty : Bool) : Nat → Reader (Option Script)
  | 0 => unexpected none
  | fuel + 1 => do
    if !isTop then skipNewlines
    replaceNicknames
    match ← peek with
    | none => return none
    | some t =>
      if isTop && t == .operator .newline then advance; return none
      else if mayBeEmpty && t.endsList then return none
      else
        let first ← takeChain fuel
        let goOn := fun (first : Script) => do
          match ← takeList isTop (!isTop) fuel with
          | none => return some first
          | some others => return some (.sequence first others)
        match ← peek with
        | none => return some first
        | some (.operator .ampersand) => advance; goOn (.background first)
        | some (.operator .semicolon) => advance; goOn first
        | some (.operator .newline) => goOn first
        | _ => if isTop then unexpected none else return some first

/-- Takes pipelines of which each hangs on the outcome of those before it. -/
def takeChain : Nat → Reader Script
  | 0 => unexpected none
  | fuel + 1 => do takeLinks fuel (← takePipeline fuel)

/-- Takes the pipelines behind the first of a chain. -/
def takeLinks : Nat → Script → Reader Script
  | 0, _ => unexpected none
  | fuel + 1, first => do
    if ← takes .andThen then
      skipNewlines
      takeLinks fuel (.andThen first (← takePipeline fuel))
    else if ← takes .orElse then
      skipNewlines
      takeLinks fuel (.orElse first (← takePipeline fuel))
    else return first

/-- Takes commands joined by pipes, whose outcome may be turned round. -/
def takePipeline : Nat → Reader Script
  | 0 => unexpected none
  | fuel + 1 => do
    let isNegated ← takesReserved "!"
    let first ← takeCommand fuel
    let others ← takePipes fuel
    let piped := if others.isEmpty then first else .pipe first others
    return if isNegated then .negate piped else piped

/-- Takes the commands behind pipes. -/
def takePipes : Nat → Reader (List Script)
  | 0 => unexpected none
  | fuel + 1 => do
    if ← takes .pipe then
      skipNewlines
      let next ← takeCommand fuel
      return next :: (← takePipes fuel)
    else return []

/-- Takes a command. -/
def takeCommand : Nat → Reader Script
  | 0 => unexpected none
  | fuel + 1 => do
    replaceNicknames
    let start ← line
    let room := (← get).length
    let withRedirects := fun (body : Script) => do
      let redirects ← redirectsUpTo room
      return if redirects.isEmpty then body else .redirected start body redirects
    if ← takes .opening then
      let body ← takeList false false fuel
      if !(← takes .closing) then unexpected (some (named ")"))
      match body with
      | some body => return .group start body (← redirectsUpTo room)
      | none => unexpected none
    else
      match ← reserved? with
      | none =>
        match ← peek with
        | some (.word _) => takeSimple fuel
        | some (.operator (.redirect ..)) => takeSimple fuel
        | _ => unexpected none
      | some "\x7b" =>
        advance
        let body ← takeBody fuel
        expectReserved "\x7d"
        withRedirects body
      | some "if" =>
        advance
        let branch ← takeBranch fuel
        expectReserved "fi"
        withRedirects branch
      | some "for" => advance; withRedirects (← takeLoopOver fuel start)
      | some "case" => advance; withRedirects (← takeChoice fuel start)
      | some kind =>
        if kind == "while" || kind == "until" then
          advance
          let test ← takeBody fuel
          expectReserved "do"
          let body ← takeBody fuel
          expectReserved "done"
          withRedirects (.loop (kind == "until") test body)
        else unexpected none

/-- Takes a list of commands that has to hold one; a text that ends here lacks what would close
it. -/
def takeBody : Nat → Reader Script
  | 0 => unexpected none
  | fuel + 1 => do
    match ← takeList false false fuel with
    | some body => return body
    | none => return .simple 1 [] [] []

/-- Takes a branch behind the word that opens it, up to the word that closes it. -/
def takeBranch : Nat → Reader Script
  | 0 => unexpected none
  | fuel + 1 => do
    let test ← takeBody fuel
    expectReserved "then"
    let body ← takeBody fuel
    if ← takesReserved "elif" then return .branch test body (some (← takeBranch fuel))
    else if ← takesReserved "else" then return .branch test body (some (← takeBody fuel))
    else return .branch test body none

/-- Takes a loop over values behind the word that opens it. -/
def takeLoopOver (fuel line : Nat) : Reader Script :=
  match fuel with
  | 0 => unexpected none
  | fuel + 1 => do
    match ← peek with
    | some (.word w) =>
      match w.bare?.filter isName with
      | none => throw ⟨line, .badLoopVariable⟩
      | some name =>
        advance
        skipNewlines
        let values ←
          if ← takesReserved "in" then
            let words ← wordsUpTo (← get).length
            if !(← takes .newline) && !(← takes .semicolon) then unexpected none
            pure (some words)
          else do
            let _ ← takes .semicolon
            pure none
        skipNewlines
        expectReserved "do"
        let body ← takeBody fuel
        expectReserved "done"
        return .loopOver line (String.ofList name) values body
    | _ => throw ⟨← Reader.line, .badLoopVariable⟩

/-- Takes a choice behind the word that opens it. -/
def takeChoice (fuel line : Nat) : Reader Script :=
  match fuel with
  | 0 => unexpected none
  | fuel + 1 => do
    let subject ← word (some "word")
    skipNewlines
    expectReserved "in"
    return .choice line subject (← takeCases fuel)

/-- Takes the cases of a choice. -/
def takeCases : Nat → Reader (List (List Word × Option Script))
  | 0 => unexpected none
  | fuel + 1 => do
    skipNewlines
    if ← takesReserved "esac" then return []
    let _ ← takes .opening
    let patterns ← takePatterns fuel
    if !(← takes .closing) then wants ")"
    let body ← takeList false true fuel
    skipNewlines
    if ← takesReserved "esac" then return [(patterns, body)]
    if !(← takes .caseEnd) then unexpected (some (named ";;"))
    return (patterns, body) :: (← takeCases fuel)

/-- Takes the patterns of a case. -/
def takePatterns : Nat → Reader (List Word)
  | 0 => unexpected none
  | fuel + 1 => do
    let first ← word (some (named ")"))
    if ← takes .pipe then return first :: (← takePatterns fuel) else return [first]

/-- Takes a simple command, or a script that is given a name. -/
def takeSimple : Nat → Reader Script
  | 0 => unexpected none
  | fuel + 1 => do
    let start ← line
    let (assignments, words, redirects) ← takeParts (← get).length ([], [], [])
    if (← peek) == some (.operator .opening) then
      match assignments, words, redirects with
      | [], [w], [] =>
        advance
        if !(← takes .closing) then wants ")"
        match functionName? w with
        | none => throw ⟨← line, .badFunctionName⟩
        | some name =>
          skipNewlines
          let line ← line
          return .define line name (← takeCommand fuel)
      | _, _, _ => unexpected none
    else return .simple start assignments words redirects

end

/-- A bound on how many tokens a text of some tokens has after names have been replaced. -/
def tokenBound (names : Nicknames) (tokens : List Placed) : Nat :=
  names.foldl (fun n (_, text) => n + tokens.length * (text.length + 1)) (tokens.length + 1)

/-- Takes one command up to the end of its line, and the tokens behind it.  An empty line holds
none. -/
def readCommand (names : Nicknames) (tokens : List Placed) :
    Except SyntaxFault (Option Script × List Placed) :=
  ((takeList true false (16 * tokenBound names tokens)).run names).run tokens

/-! ## Commands inside words -/

/-- What is wrong with a command inside a word, which ends where it is closed and not with the text;
`closing` is what closes it. -/
def Complaint.inside (closing : Option String) : Complaint → Complaint
  | unexpected "end of file" wanted =>
    unexpected ((closing.map named).getD "end of file") wanted
  | other => other

/-- The texts of the commands that stand in a word, with what closes each. -/
def innerCommands (w : Word) : List (String × Option String) :=
  w.filterMap fun g => match g with
    | .expansion ('(' :: body) _ =>
      if body.head? == some '(' && body.getLast? == some ')' then none
      else some (String.ofList body, some ")")
    | .expansion (c :: body) _ => if c == backquote then some (String.ofList body, none) else none
    | _ => none

/-- What is wrong with the commands of a text. -/
def faultOfCommands? : Nat → List Placed → Option SyntaxFault
  | 0, _ => none
  | fuel + 1, tokens =>
    match tokens with
    | [] => none
    | ⟨_, none, _, _⟩ :: _ => none
    | _ =>
      match readCommand [] tokens with
      | .error fault => some fault
      | .ok (_, rest) =>
        if rest.length < tokens.length then faultOfCommands? fuel rest else none

/-- What is wrong with the commands inside the words of placed tokens, with a bound on how deep
commands stand inside of each other. -/
def innerFaultUpTo? : Nat → List Placed → Option SyntaxFault
  | 0, _ => none
  | depth + 1, tokens =>
    tokens.findSome? fun placed =>
      match placed.token with
      | some (.word w) =>
        (innerCommands w).findSome? fun (text, closing) =>
          let inner := placedTokens text
          ((faultOfCommands? (inner.length + 1) inner).map fun fault =>
            { fault with
              line := placed.line - w.lineEnds + fault.line - 1
              complaint := fault.complaint.inside closing }) <|>
            innerFaultUpTo? depth inner
      | _ => none

/-- How deep commands may stand inside of each other to be looked at. -/
def innerDepth : Nat :=
  8

/-- What is wrong with the commands inside the words of placed tokens. -/
def innerFault? (tokens : List Placed) : Option SyntaxFault :=
  innerFaultUpTo? innerDepth tokens

/-- Whether nothing is left of placed tokens. -/
def isAtEnd : List Placed → Bool
  | [] => true
  | ⟨_, none, _, _⟩ :: _ => true
  | _ => false

end ProjectCheck.Shell
