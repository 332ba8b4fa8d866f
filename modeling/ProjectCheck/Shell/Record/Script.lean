import ProjectCheck.Shell.Expression
import ProjectCheck.Shell.Record.Cell

/-!
# Scripts for records

A script for records is a list of rules; each has a condition under which its statements are carried
out for a record.  `read` takes the text of a script apart.

A slash begins an expression where a value may stand, and divides elsewhere.  Between two values that
stand side by side nothing has to be written to join their texts.  What is printed ends in front of a
sign for where it goes, so a comparison there has to stand in parentheses.
-/

namespace ProjectCheck.Shell.Record

/-- How two values are joined. -/
inductive Joint where
  | add
  | subtract
  | multiply
  | divide
  | remainder
  | power
  | concatenate
  | compare (sign : String)
deriving Repr, DecidableEq

/-- What has a value. -/
inductive Formula where
  | constant (value : Cell)
  /-- Whether the record fits an expression. -/
  | fits (e : Expression)
  | variable_ (name : String)
  | field (number : Formula)
  | element (array : String) (keys : List Formula)
  /-- Gives something a value, perhaps one that is joined from the old one and another. -/
  | assign (target : Formula) (joint : Option Joint) (value : Formula)
  /-- Counts up or down; the value is the one before or the one after. -/
  | step (target : Formula) (isUp givesOld : Bool)
  | negate (inner : Formula)
  | positive (inner : Formula)
  | not (inner : Formula)
  | join (joint : Joint) (a b : Formula)
  | and (a b : Formula)
  | or (a b : Formula)
  /-- Whether a text fits an expression, which may be written as a text too. -/
  | match_ (isNegated : Bool) (text expression : Formula)
  | isKey (keys : List Formula) (array : String)
  | choose (test yes no : Formula)
  | call (name : String) (args : List Formula)
  /-- Values in parentheses. -/
  | enclosed (inner : List Formula)
  /-- Reads the next record, perhaps only into a variable. -/
  | next (target : Option Formula)
deriving Repr, Inhabited

/-- Where something is printed. -/
inductive Outlet where
  | output
  | file (path : Formula) (appends : Bool)
deriving Repr, Inhabited

/-- What is carried out. -/
inductive Statement where
  | print (values : List Formula) (outlet : Outlet)
  | printInForm (values : List Formula) (outlet : Outlet)
  | evaluate (formula : Formula)
  | block (inner : List Statement)
  | branch (test : Formula) (yes : Statement) (no : Option Statement)
  | loop (test : Formula) (body : Statement)
  /-- A loop with its test behind each turn. -/
  | loopAfter (test : Formula) (body : Statement)
  | count (first : Option Statement) (test : Option Formula) (step : Option Statement)
      (body : Statement)
  | loopOver (name array : String) (body : Statement)
  | nextRecord
  | exit (status : Option Formula)
  | delete (array : String) (keys : Option (List Formula))
  | leave
  | goOn
  | giveBack (value : Option Formula)
deriving Repr, Inhabited

/-- When a rule applies. -/
inductive Condition where
  | first
  | last
  | always
  | when (test : Formula)
  /-- From a record for which a test holds up to one for which another does. -/
  | between (begins ends : Formula)
deriving Repr, Inhabited

/-- A rule. -/
structure Rule where
  condition : Condition
  body : List Statement
deriving Repr, Inhabited

/-- What a script gives a name. -/
structure Procedure where
  parameters : List String
  body : List Statement
deriving Repr, Inhabited

/-- A script. -/
structure Script where
  rules : List Rule := []
  procedures : List (String × Procedure) := []
deriving Repr, Inhabited

/-! ## Tokens -/

/-- A token of a script. -/
inductive Sign where
  | number (x : Float)
  | text (s : List Char)
  | pattern (s : List Char)
  | name (s : String)
  /-- A name right in front of a parenthesis. -/
  | called (s : String)
  | word (s : String)
  | mark (s : String)
  | newline
deriving Repr, BEq, Inhabited

/-- The words of the language. -/
def words : List String :=
  ["BEGIN", "END", "function", "func", "if", "else", "while", "for", "do", "in", "print", "printf",
   "next", "exit", "delete", "break", "continue", "return", "getline"]

/-- The names of what can be called without being written in the script. -/
def knownCalls : List String :=
  ["length", "substr", "index", "split", "sub", "gsub", "match", "sprintf", "tolower", "toupper",
   "int", "sqrt", "exp", "log", "sin", "cos", "atan2", "rand", "srand", "system", "close", "fflush"]

/-- The marks of the language, those with more characters first. -/
def marks : List String :=
  ["**=", "&&", "||", "++", "--", "+=", "-=", "*=", "/=", "%=", "^=", "==", "<=", ">=", "!=", "!~",
   ">>", "**", "\x7b", "\x7d", "(", ")", "[", "]", ";", ",", "+", "-", "*", "/", "%", "^", "!", ">",
   "<", "|", "?", ":", "~", "$", "="]

/-- Whether a slash behind a token divides. -/
def Sign.endsValue : Sign → Bool
  | number _ => true
  | text _ => true
  | pattern _ => true
  | name _ => true
  | word _ => false
  | called s => s == "length"
  | mark s => s == ")" || s == "]" || s == "$" || s == "++" || s == "--"
  | newline => false

/-- The character that a backslash and another stand for, and whether the backslash is kept. -/
def escaped (c : Char) : List Char :=
  match c with
  | 'n' => ['\n']
  | 't' => ['\t']
  | 'r' => ['\r']
  | 'a' => ['\x07']
  | 'b' => ['\x08']
  | 'f' => ['\x0c']
  | 'v' => ['\x0b']
  | '"' => ['"']
  | '/' => ['/']
  | '\\' => ['\\']
  | '\n' => []
  | c => ['\\', c]

/-- The value of up to three octal digits at the front, and how many there are. -/
def octalAt (s : List Char) : Nat × Nat :=
  let digits := (s.take 3).takeWhile fun c => '0' ≤ c && c ≤ '7'
  (digits.foldl (fun n c => 8 * n + (c.toNat - 48)) 0, digits.length)

/-- A text with what its backslashes stand for. -/
def unescaped : List Char → List Char
  | [] => []
  | ['\\'] => ['\\']
  | '\\' :: c :: rest =>
    match octalAt (c :: rest) with
    | (_, 0) => escaped c ++ unescaped rest
    | (n, k) => Char.ofNat (n % 256) :: unescaped (rest.drop (k - 1))
  | c :: rest => c :: unescaped rest
termination_by s => s.length
decreasing_by all_goals simp <;> omega

/-- The characters up to a closing sign, and how many there are with the sign; nothing if it is
missing.  A bracket in an expression keeps the sign from closing. -/
def upTo? (closing : Char) (isPattern inBrackets : Bool) : List Char → Option (List Char × Nat)
  | [] => none
  | '\\' :: c :: rest =>
    (upTo? closing isPattern inBrackets rest).map fun (s, n) => ('\\' :: c :: s, n + 2)
  | c :: rest =>
    if c == closing && !inBrackets then some ([], 1)
    else if c == '\n' then none
    else
      let inside := if !isPattern then false
        else if inBrackets then c != ']' else c == '['
      (upTo? closing isPattern inside rest).map fun (s, n) => (c :: s, n + 1)

/-- The first token of a text, and how many characters it takes; `divides` says that a slash
divides.  Nothing if the text begins with none. -/
def firstSign? (divides : Bool) (s : List Char) : Option (Sign × Nat) :=
  match s with
  | [] => none
  | c :: rest =>
    if c == '\n' then some (.newline, 1)
    else if c == '"' then
      (upTo? '"' false false rest).map fun (body, n) => (.text (unescaped body), n + 1)
    else if c == '/' && !divides then
      (upTo? '/' true false rest).map fun (body, n) => (.pattern body, n + 1)
    else if c.isDigit || (c == '.' && rest.head?.any Char.isDigit) then
      (frontNumber? s).map fun (x, behind) => (.number x, s.length - behind.length)
    else if isNameChar c then
      let name := s.takeWhile isNameChar
      let text := String.ofList name
      some (if words.contains text then .word text
        else if knownCalls.contains text || (s.drop name.length).head? == some '(' then .called text
        else .name text, name.length)
    else
      (marks.find? fun m => m.toList.isPrefixOf s).map fun m => (.mark m, m.length)

/-- The tokens of a text behind another token; nothing if a part of it is no token. -/
def signsAfter? (last : Option Sign) (s : List Char) : Option (List Sign) :=
  match s with
  | [] => some []
  | c :: rest =>
    if c == ' ' || c == '\t' || c == '\r' then signsAfter? last rest
    else if c == '#' then signsAfter? last (rest.dropWhile (· != '\n'))
    else if c == '\\' && rest.head? == some '\n' then signsAfter? last (rest.drop 1)
    else
      match firstSign? (last.any Sign.endsValue) (c :: rest) with
      | none => none
      | some (sign, n) => (signsAfter? (some sign) (rest.drop (n - 1))).map (sign :: ·)
termination_by s.length
decreasing_by
  all_goals simp
  all_goals try omega
  have := (List.dropWhile_sublist (fun x => x != '\n') (l := rest)).length_le
  omega

/-! ## Reading -/

/-- A reader of tokens; a fault is the token at which nothing can be read. -/
abbrev Taking :=
  StateT (List Sign) (Except (Option Sign))

namespace Taking

/-- The next token. -/
def peek : Taking (Option Sign) := do
  return (← get).head?

/-- Goes past the next token. -/
def advance : Taking Unit :=
  modify (·.drop 1)

/-- Refuses the next token. -/
def refuse {α : Type} : Taking α := do
  throw (← peek)

/-- Goes past a certain token, if it comes next. -/
def takes (s : Sign) : Taking Bool := do
  if (← peek) == some s then advance; return true else return false

/-- Goes past a certain mark, which has to come next. -/
def expect (m : String) : Taking Unit := do
  if !(← takes (.mark m)) then refuse

/-- Goes past line ends. -/
def skipNewlines : Taking Unit :=
  modify (·.dropWhile (· == .newline))

/-- Goes past line ends and semicolons. -/
def skipEnds : Taking Unit :=
  modify (·.dropWhile fun s => s == .newline || s == .mark ";")

end Taking

open Taking

/-- Where a formula stands, which decides what may belong to it. -/
structure Place where
  /-- A sign for greater would say where something is printed. -/
  isPrinted : Bool := false
  /-- The word for keys would belong to a loop. -/
  isFirst : Bool := false
deriving DecidableEq

/-- Whether a value may begin with a token that is joined to the value before it. -/
def Sign.beginsJoined : Sign → Bool
  | number _ => true
  | text _ => true
  | pattern _ => true
  | name _ => true
  | called _ => true
  | mark s => ["$", "!", "(", "-", "+", "++", "--"].contains s && s != "-" && s != "+" && s != "!"
  | _ => false

/-- Whether something can be given a value. -/
def Formula.isPlace : Formula → Bool
  | variable_ _ => true
  | field _ => true
  | element .. => true
  | _ => false

/-- The joint that a mark for giving a joined value names. -/
def assigningJoint? : String → Option (Option Joint)
  | "=" => some none
  | "+=" => some (some .add)
  | "-=" => some (some .subtract)
  | "*=" => some (some .multiply)
  | "/=" => some (some .divide)
  | "%=" => some (some .remainder)
  | "^=" => some (some .power)
  | "**=" => some (some .power)
  | _ => none

/-- The comparison that a token is at a place. -/
def comparison? (p : Place) : Sign → Option String
  | .mark m =>
    if ["<", "<=", "==", "!=", ">="].contains m || (m == ">" && !p.isPrinted) then some m else none
  | _ => none

mutual

/-- Takes a formula. -/
def takeFormula (p : Place) : Nat → Taking Formula
  | 0 => refuse
  | fuel + 1 => do
    let first ← takeOr p fuel
    match ← peek with
    | some (.mark m) =>
      if m == "?" then
        advance
        skipNewlines
        let yes ← takeFormula p fuel
        skipNewlines
        expect ":"
        skipNewlines
        return .choose first yes (← takeFormula p fuel)
      else
        match (assigningJoint? m).filter fun _ => first.isPlace with
        | some joint =>
          advance
          skipNewlines
          return .assign first joint (← takeFormula p fuel)
        | none => return first
    | _ => return first

/-- Takes formulas of which one has to hold. -/
def takeOr (p : Place) : Nat → Taking Formula
  | 0 => refuse
  | fuel + 1 => do
    let first ← takeAnd p fuel
    if ← takes (.mark "||") then
      skipNewlines
      return .or first (← takeOr p fuel)
    else return first

/-- Takes formulas that all have to hold. -/
def takeAnd (p : Place) : Nat → Taking Formula
  | 0 => refuse
  | fuel + 1 => do
    let first ← takeKeys p fuel
    if ← takes (.mark "&&") then
      skipNewlines
      return .and first (← takeAnd p fuel)
    else return first

/-- Takes a formula that may be asked for as a key. -/
def takeKeys (p : Place) : Nat → Taking Formula
  | 0 => refuse
  | fuel + 1 => do
    let first ← takeMatches p fuel (← takeComparison p fuel)
    if !p.isFirst && (← takes (.word "in")) then
      match ← peek with
      | some (.name array) =>
        advance
        return .isKey (match first with
          | .enclosed keys => keys
          | key => [key]) array
      | _ => refuse
    else return first

/-- Takes the expressions that a text has to fit. -/
def takeMatches (p : Place) : Nat → Formula → Taking Formula
  | 0, _ => refuse
  | fuel + 1, first => do
    if ← takes (.mark "~") then
      takeMatches p fuel (.match_ false first (← takeComparison p fuel))
    else if ← takes (.mark "!~") then
      takeMatches p fuel (.match_ true first (← takeComparison p fuel))
    else return first

/-- Takes a comparison. -/
def takeComparison (p : Place) : Nat → Taking Formula
  | 0 => refuse
  | fuel + 1 => do
    let first ← takeJoined p fuel (← takeSum p fuel)
    match (← peek).bind (comparison? p) with
    | some sign =>
      advance
      return .join (.compare sign) first (← takeJoined p fuel (← takeSum p fuel))
    | none => return first

/-- Takes the values whose texts are joined to a value. -/
def takeJoined (p : Place) : Nat → Formula → Taking Formula
  | 0, _ => refuse
  | fuel + 1, first => do
    if (← peek).any Sign.beginsJoined then
      takeJoined p fuel (.join .concatenate first (← takeSum p fuel))
    else return first

/-- Takes a sum. -/
def takeSum (p : Place) : Nat → Taking Formula
  | 0 => refuse
  | fuel + 1 => do takeTerms p fuel (← takeProduct p fuel)

/-- Takes the terms of a sum behind the first. -/
def takeTerms (p : Place) : Nat → Formula → Taking Formula
  | 0, _ => refuse
  | fuel + 1, first => do
    if ← takes (.mark "+") then takeTerms p fuel (.join .add first (← takeProduct p fuel))
    else if ← takes (.mark "-") then
      takeTerms p fuel (.join .subtract first (← takeProduct p fuel))
    else return first

/-- Takes a product. -/
def takeProduct (p : Place) : Nat → Taking Formula
  | 0 => refuse
  | fuel + 1 => do takeFactors p fuel (← takeUnary p fuel)

/-- Takes the factors of a product behind the first. -/
def takeFactors (p : Place) : Nat → Formula → Taking Formula
  | 0, _ => refuse
  | fuel + 1, first => do
    if ← takes (.mark "*") then takeFactors p fuel (.join .multiply first (← takeUnary p fuel))
    else if ← takes (.mark "/") then
      takeFactors p fuel (.join .divide first (← takeUnary p fuel))
    else if ← takes (.mark "%") then
      takeFactors p fuel (.join .remainder first (← takeUnary p fuel))
    else return first

/-- Takes a value with a sign in front. -/
def takeUnary (p : Place) : Nat → Taking Formula
  | 0 => refuse
  | fuel + 1 => do
    if ← takes (.mark "!") then return .not (← takeUnary p fuel)
    else if ← takes (.mark "-") then return .negate (← takeUnary p fuel)
    else if ← takes (.mark "+") then return .positive (← takeUnary p fuel)
    else
      let base ← takeStepped p fuel
      if (← takes (.mark "^")) || (← takes (.mark "**")) then
        return .join .power base (← takeUnary p fuel)
      else return base

/-- Takes a value that may be counted up or down. -/
def takeStepped (p : Place) : Nat → Taking Formula
  | 0 => refuse
  | fuel + 1 => do
    if ← takes (.mark "++") then return .step (← takeStepped p fuel) true false
    else if ← takes (.mark "--") then return .step (← takeStepped p fuel) false false
    else
      let value ← takeSingle p fuel
      if value.isPlace then
        if ← takes (.mark "++") then return .step value true true
        else if ← takes (.mark "--") then return .step value false true
        else return value
      else return value

/-- Takes a single value. -/
def takeSingle (p : Place) : Nat → Taking Formula
  | 0 => refuse
  | fuel + 1 => do
    match ← peek with
    | some (.number x) => advance; return .constant (.number x)
    | some (.text s) => advance; return .constant (.text s)
    | some (.pattern s) =>
      match Expression.read .countless s with
      | .ok e => advance; return .fits e
      | .error _ => refuse
    | some (.mark "$") =>
      advance
      if ← takes (.mark "++") then return .field (.step (← takeSingle p fuel) true false)
      else if ← takes (.mark "--") then return .field (.step (← takeSingle p fuel) false false)
      else return .field (← takeSingle p fuel)
    | some (.mark "-") => advance; return .negate (← takeSingle p fuel)
    | some (.mark "(") =>
      advance
      skipNewlines
      let values ← takeFormulas {} fuel
      skipNewlines
      expect ")"
      return .enclosed values
    | some (.word "getline") =>
      advance
      match ← peek with
      | some (.name _) => return .next (some (← takeSingle p fuel))
      | some (.mark "$") => return .next (some (← takeSingle p fuel))
      | _ => return .next none
    | some (.called name) =>
      advance
      if ← takes (.mark "(") then
        skipNewlines
        if ← takes (.mark ")") then return .call name []
        let args ← takeFormulas {} fuel
        skipNewlines
        expect ")"
        return .call name args
      else if name == "length" then return .call name []
      else refuse
    | some (.name name) =>
      advance
      if ← takes (.mark "[") then
        let keys ← takeFormulas {} fuel
        expect "]"
        return .element name keys
      else return .variable_ name
    | _ => refuse

/-- Takes formulas with commas between them. -/
def takeFormulas (p : Place) : Nat → Taking (List Formula)
  | 0 => refuse
  | fuel + 1 => do
    let first ← takeFormula p fuel
    if ← takes (.mark ",") then
      skipNewlines
      return first :: (← takeFormulas p fuel)
    else return [first]

end

/-- Goes past the end of a statement, which may also be in front of what closes it. -/
def takeEnd : Taking Unit := do
  match ← peek with
  | some .newline => skipEnds
  | some (.mark ";") => advance; skipNewlines
  | some (.mark "\x7d") => pure ()
  | none => pure ()
  | _ => refuse

/-- Takes what is printed, and where it goes. -/
def takePrinted (fuel : Nat) : Taking (List Formula × Outlet) := do
  let values ← match ← peek with
    | none => pure []
    | some .newline => pure []
    | some (.mark m) =>
      if [";", "\x7d", ">", ">>", "|"].contains m then pure []
      else takeFormulas { isPrinted := true } fuel
    | _ => takeFormulas { isPrinted := true } fuel
  let values := match values with
    | [.enclosed inner] => inner
    | values => values
  if ← takes (.mark ">>") then return (values, .file (← takeSum { isPrinted := true } fuel) true)
  else if ← takes (.mark ">") then return (values, .file (← takeSum { isPrinted := true } fuel) false)
  else return (values, .output)

/-- Takes a statement that can stand in the head of a loop. -/
def takeSimple (p : Place) (fuel : Nat) : Taking Statement := do
  match ← peek with
  | some (.word "print") =>
    advance
    let (values, outlet) ← takePrinted fuel
    return .print values outlet
  | some (.word "printf") =>
    advance
    let (values, outlet) ← takePrinted fuel
    return .printInForm values outlet
  | some (.word "delete") =>
    advance
    match ← peek with
    | some (.name array) =>
      advance
      if ← takes (.mark "[") then
        let keys ← takeFormulas {} fuel
        expect "]"
        return .delete array (some keys)
      else return .delete array none
    | _ => refuse
  | _ => return .evaluate (← takeFormula p fuel)

mutual

/-- Takes a statement. -/
def takeStatement : Nat → Taking Statement
  | 0 => refuse
  | fuel + 1 => do
    let size := (← get).length * 16 + 64
    match ← peek with
    | some (.mark "\x7b") => return .block (← takeBlock fuel)
    | some (.mark ";") => advance; skipNewlines; return .block []
    | some (.word "if") =>
      advance
      expect "("
      let test ← takeFormula {} size
      expect ")"
      skipNewlines
      let yes ← takeStatement fuel
      let before ← get
      skipEnds
      if ← takes (.word "else") then
        skipNewlines
        return .branch test yes (some (← takeStatement fuel))
      else
        set before
        return .branch test yes none
    | some (.word "while") =>
      advance
      expect "("
      let test ← takeFormula {} size
      expect ")"
      if ← takes (.mark ";") then return .loop test (.block [])
      skipNewlines
      return .loop test (← takeStatement fuel)
    | some (.word "do") =>
      advance
      skipNewlines
      let body ← takeStatement fuel
      skipEnds
      if !(← takes (.word "while")) then refuse
      expect "("
      let test ← takeFormula {} size
      expect ")"
      takeEnd
      return .loopAfter test body
    | some (.word "for") =>
      advance
      expect "("
      match ← get with
      | .name name :: .word "in" :: .name array :: .mark ")" :: rest =>
        set rest
        skipNewlines
        return .loopOver name array (← takeStatement fuel)
      | _ =>
        let first ← if (← peek) == some (.mark ";") then pure none
          else some <$> takeSimple { isFirst := true } size
        expect ";"
        skipNewlines
        let test ← if (← peek) == some (.mark ";") then pure none else some <$> takeFormula {} size
        expect ";"
        skipNewlines
        let step ← if (← peek) == some (.mark ")") then pure none
          else some <$> takeSimple {} size
        expect ")"
        if ← takes (.mark ";") then return .count first test step (.block [])
        skipNewlines
        return .count first test step (← takeStatement fuel)
    | some (.word "next") => advance; takeEnd; return .nextRecord
    | some (.word "break") => advance; takeEnd; return .leave
    | some (.word "continue") => advance; takeEnd; return .goOn
    | some (.word "exit") => advance; return .exit (← takeOptional size)
    | some (.word "return") => advance; return .giveBack (← takeOptional size)
    | _ =>
      let s ← takeSimple {} size
      takeEnd
      return s

/-- Takes a formula and the end of its statement, or only the end. -/
def takeOptional (size : Nat) : Taking (Option Formula) := do
  match ← peek with
  | none => return none
  | some .newline => takeEnd; return none
  | some (.mark ";") => takeEnd; return none
  | some (.mark "\x7d") => return none
  | _ =>
    let value ← takeFormula {} size
    takeEnd
    return some value

/-- Takes statements in braces. -/
def takeBlock : Nat → Taking (List Statement)
  | 0 => refuse
  | fuel + 1 => do
    expect "\x7b"
    takeStatements fuel

/-- Takes statements up to the closing brace. -/
def takeStatements : Nat → Taking (List Statement)
  | 0 => refuse
  | fuel + 1 => do
    skipEnds
    if ← takes (.mark "\x7d") then return []
    let first ← takeStatement fuel
    return first :: (← takeStatements fuel)

end

/-- Takes the statements of a rule. -/
def takeBody : Taking (List Statement) := do
  takeBlock ((← get).length * 4 + 16)

/-- Takes names with commas between them, at most a number of them. -/
def takeNames : Nat → Taking (List String)
  | 0 => return []
  | n + 1 => do
    match ← peek with
    | some (.name name) =>
      advance
      let _ ← takes (.mark ",")
      return name :: (← takeNames n)
    | _ => return []

/-- Takes a rule or a procedure and adds it to a script. -/
def takeItem (s : Script) : Taking Script := do
  let rule := fun (condition : Condition) => do
    let body ← if (← peek) == some (.mark "\x7b") then takeBody
      else pure [.print [] .output]
    return { s with rules := s.rules ++ [⟨condition, body⟩] }
  let size := (← get).length * 16 + 64
  match ← peek with
  | some (.word "BEGIN") => advance; return { s with rules := s.rules ++ [⟨.first, ← takeBody⟩] }
  | some (.word "END") => advance; return { s with rules := s.rules ++ [⟨.last, ← takeBody⟩] }
  | some (.mark "\x7b") => rule .always
  | some (.word w) =>
    if w == "function" || w == "func" then
      advance
      let name ← match ← peek with
        | some (.name name) => pure name
        | some (.called name) => pure name
        | _ => refuse
      advance
      expect "("
      let parameters ← takeNames size
      expect ")"
      skipNewlines
      return { s with procedures := s.procedures ++ [(name, ⟨parameters, ← takeBody⟩)] }
    else refuse
  | _ =>
    let test ← takeFormula {} size
    if ← takes (.mark ",") then
      skipNewlines
      rule (.between test (← takeFormula {} size))
    else rule (.when test)

/-- Takes rules up to the end, at most a number of them. -/
def takeItems : Nat → Script → Taking Script
  | 0, s => return s
  | n + 1, s => do
    skipEnds
    if (← peek).isNone then return s
    takeItems n (← takeItem s)

/-- A token as it is named in a complaint. -/
def Sign.shown : Sign → String
  | number x => textOfChars (numberText x)
  | text s => textOfChars s
  | pattern s => "/" ++ textOfChars s ++ "/"
  | name s => s
  | called s => s
  | word s => s
  | mark s => s
  | newline => "end of line"

/-- The script that a text means, or what is wrong with it. -/
def read (text : List Char) : Except String Script :=
  match signsAfter? none text with
  | none => .error "syntax error"
  | some signs =>
    match (takeItems (signs.length + 1) {}).run signs with
    | .ok (s, _) => .ok s
    | .error (some sign) => .error ("syntax error at or near " ++ sign.shown)
    | .error none => .error "syntax error at or near end of line"

end ProjectCheck.Shell.Record
