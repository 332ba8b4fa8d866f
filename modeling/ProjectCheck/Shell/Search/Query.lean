import ProjectCheck.Shell.Expression
import ProjectCheck.Shell.Identity
import ProjectCheck.Shell.Search.Format

/-!
# What is searched for

A search is made of tests and acts, which signs join: one of two parts, both parts, one part after the other,
or not a part.  A test holds of a path or not, and an act does something with it and holds as well.  A search
that does nothing with what it finds prints it.

All files are taken to be new and to belong to the only user there is.
-/

namespace ProjectCheck.Shell

open ProjectCheck.Disk ProjectCheck.Number ProjectCheck.Text

/-! ## Tests and acts -/

/-- How a figure stands to the one that is asked for. -/
inductive Relation where
  | exactly
  | more
  | less
deriving Repr, DecidableEq

/-- Whether a figure stands so to another. -/
def Relation.holds {α : Type} [BEq α] [LT α] [DecidableLT α] (r : Relation) (figure asked : α) : Bool :=
  match r with
  | exactly => figure == asked
  | more => asked < figure
  | less => figure < asked

/-- How permissions stand to the bits that are asked for. -/
inductive ModeRelation where
  | exactly
  | withAll
  | withAny
deriving Repr, DecidableEq

/-- How a command is run with the paths that are found. -/
structure FoundRun where
  words : List String
  /-- One command is run with all paths. -/
  isTogether : Bool := false
  /-- It is run in the directory of the path. -/
  isInside : Bool := false
  /-- Someone is asked first. -/
  isAsked : Bool := false
deriving Repr, DecidableEq

/-- A part of a search. -/
inductive SearchPart where
  | constant (holds : Bool)
  | name (pattern : Pattern) (inAnyCase : Bool)
  | path (pattern : Pattern) (inAnyCase : Bool)
  | target (pattern : Pattern) (inAnyCase : Bool)
  | fits (expression : Expression) (inAnyCase : Bool)
  /-- The letters of kinds; the kind of what a link leads to counts, if it is asked for. -/
  | kind (letters : List Char) (isFollowed : Bool)
  | isEmpty
  /-- The size in units of so many bytes, rounded up. -/
  | size (r : Relation) (figure unit : Nat)
  | linkCount (r : Relation) (figure : Nat)
  | mode (r : ModeRelation) (mode : Mode)
  | isProgram
  | isAt (location : Option Location)
  /-- Keeps what is below the path from being searched. -/
  | prune
  | quit
  | delete
  | print (ending : String)
  | format (parts : List FormatPart)
  /-- The number tells the commands of a search apart. -/
  | run (number : Nat) (run : FoundRun)

/-- Parts of a search that are joined. -/
inductive SearchTree where
  | part (part : SearchPart)
  | negate (inner : SearchTree)
  | both (a b : SearchTree)
  | either (a b : SearchTree)
  | sequence (a b : SearchTree)

/-- Which links are followed. -/
inductive LinkRule where
  | none_
  | starts
  | all
deriving Repr, DecidableEq

/-- A search. -/
structure Search where
  starts : List String
  links : LinkRule := .none_
  minDepth : Nat := 0
  maxDepth : Option Nat := none
  /-- What is in a directory comes before it. -/
  isInnerFirst : Bool := false
  tree : SearchTree := .part (.print "\n")
  /-- What is said before the search begins. -/
  warnings : List String := []

/-! ## Faults -/

/-- Why arguments mean no search. -/
inductive SearchFault where
  | unknown (name : String)
  | missingArgument (name : String)
  | invalidArgument (text name : String)
  /-- A path stands behind the tests; the name is that of the part in front if there is something at the path. -/
  | latePath (path : String) (part : Option String)
  | nothingBefore (name : String)
  | nothingBehind (name : String)
  | nothingBeforeClosing (name : String)
  | noClosing
  | unclosed (name : String)
  | emptyParentheses
  | strayClosing
  | incomplete
  | deletesUnderPrune
  /-- What is wrong with a text that a part of the search needs. -/
  | other (what : String)
deriving Repr, DecidableEq

/-- What is said of arguments that mean no search. -/
def SearchFault.message : SearchFault → String
  | unknown name => "unknown predicate \x60" ++ name ++ "'"
  | missingArgument name => "missing argument to \x60" ++ name ++ "'"
  | invalidArgument text name => "invalid argument \x60" ++ text ++ "' to \x60" ++ name ++ "'"
  | latePath path part => "paths must precede expression: \x60" ++ path ++ "'" ++
    match part with
    | some name => "\nfind: possible unquoted pattern after predicate \x60" ++ name ++ "'?"
    | none => ""
  | nothingBefore name =>
    "invalid expression; you have used a binary operator '" ++ name ++ "' with nothing before it."
  | nothingBehind name => "expected an expression after '" ++ name ++ "'"
  | nothingBeforeClosing name => "expected an expression between '" ++ name ++ "' and ')'"
  | noClosing => "invalid expression; I was expecting to find a ')' somewhere but did not see one."
  | unclosed name => "invalid expression; expected to find a ')' but didn't see one. " ++
    "Perhaps you need an extra predicate after '" ++ name ++ "'"
  | emptyParentheses => "invalid expression; empty parentheses are not allowed."
  | strayClosing => "you have too many ')'"
  | incomplete => "invalid expression"
  | deletesUnderPrune =>
    "The -delete action automatically turns on -depth, but -prune does nothing when -depth is in effect.  " ++
      "If you want to carry on anyway, just explicitly use the -depth option."
  | other what => what

/-! ## Reading texts of tests -/

/-- The sign in front of a figure, and the figure. -/
def takeRelation (text : String) : Relation × List Char :=
  match text.toList with
  | '+' :: rest => (.more, rest)
  | '-' :: rest => (.less, rest)
  | s => (.exactly, s)

/-- The relation and the figure that a text asks for. -/
def readFigure? (text : String) : Option (Relation × Nat) :=
  let (relation, digits) := takeRelation text
  if digits.isEmpty || !digits.all isAsciiDigit then none else some (relation, asciiValue digits)

/-- Whether a new file is as old as a text asks for, in days or in minutes. -/
def isNewFor? (inMinutes : Bool) (text : String) : Option Bool :=
  let (relation, figure) := takeRelation text
  (readDecimal? figure).map fun n =>
    match relation with
    | .exactly => if inMinutes then 0.0 < n && n ≤ 1.0 else n == 0.0
    | .more => if inMinutes then n ≤ 0.0 else n < 0.0
    | .less => 0.0 < n

/-- The letters of kinds that a text asks for. -/
def readKinds (name text : String) : Except SearchFault (List Char) :=
  let known := "bcdpflsD".toList
  let rec go (taken : List Char) : List Char → Except SearchFault (List Char)
    | [] => .error (.other ("Last file type in list argument to " ++ name ++
        " is missing, i.e., list is ending on: ','"))
    | c :: rest =>
      if !known.contains c then
        .error (.other ("Unknown argument to " ++ name ++ ": " ++ String.singleton c))
      else if taken.contains c then
        .error (.other ("Duplicate file type '" ++ String.singleton c ++ "' in the argument list to " ++
          name ++ "."))
      else
        match rest with
        | [] => .ok (c :: taken)
        | ',' :: rest => go (c :: taken) rest
        | _ => .error (.other ("Must separate multiple arguments to " ++ name ++ " using: ','"))
  if text.isEmpty then
    .error (.other ("Arguments to " ++ name ++ " should contain at least one letter"))
  else go [] text.toList

/-- The units of sizes with the bytes that they stand for. -/
def sizeUnits : List (Char × Nat) :=
  [('b', 512), ('c', 1), ('w', 2), ('k', 1024), ('M', 1048576), ('G', 1073741824)]

/-- The size that a text asks for. -/
def readSize (text : String) : Except SearchFault SearchPart :=
  match text.toList.getLast? with
  | none => .error (.other "invalid null argument to -size")
  | some c =>
    let figure := fun (digits : String) (unit : Nat) =>
      match readFigure? digits with
      | some (relation, n) => .ok (.size relation n unit)
      | none => .error (.other ("Invalid argument \x60" ++ text ++ "' to -size"))
    match sizeUnits.lookup c with
    | some unit => figure (String.ofList text.toList.dropLast) unit
    | none =>
      if isAsciiDigit c then figure text 512
      else .error (.other ("invalid -size type \x60" ++ String.singleton c ++ "'"))

/-- The permissions that a text asks for. -/
def readModeTest (text : String) : Except SearchFault SearchPart :=
  let (relation, own) := match text.toList with
    | '-' :: rest => (ModeRelation.withAll, rest)
    | '/' :: rest => (.withAny, rest)
    | s => (.exactly, s)
  match if own.isEmpty then none else Mode.after? 0 false (String.ofList own) 0 with
  | some mode => .ok (.mode relation mode)
  | none => .error (.other ("invalid mode " ++ quoted text))

/-- The kinds of expressions by their names, in the order in which they are listed; none is a kind of its own. -/
def expressionKinds : List (String × Option ExpressionForm) :=
  [("findutils-default", none), ("ed", some .basic), ("emacs", none), ("gnu-awk", some .extended),
    ("grep", some .basic), ("posix-awk", some .extended), ("awk", some .extended),
    ("posix-basic", some .basic), ("posix-egrep", some .extended), ("egrep", some .extended),
    ("posix-extended", some .extended), ("posix-minimal-basic", some .basic), ("sed", some .basic)]

/-- An expression in the extended form that means what another does in the form where groups and choices need a
backslash, repeats do not, and there are no counts. -/
def inExtendedForm : List Char → List Char
  | [] => []
  | '\\' :: c :: rest =>
    (if "()|".toList.contains c then [c] else ['\\', c]) ++ inExtendedForm rest
  | c :: rest => (if "()|\x7b\x7d".toList.contains c then ['\\', c] else [c]) ++ inExtendedForm rest

/-- The expression that a whole path has to fit. -/
def readWholeExpression (form : Option ExpressionForm) (text : String) : Except SearchFault Expression :=
  let read := match form with
    | some form => Expression.read form text.toList
    | none => Expression.read .extended (inExtendedForm text.toList)
  match read with
  | .ok expression => .ok expression
  | .error fault =>
    .error (.other ("failed to compile regular expression '" ++ text ++ "': " ++ fault.message))

/-! ## Signs -/

/-- A sign that joins two parts. -/
inductive Joint where
  | comma
  | either
  | both
deriving Repr, DecidableEq

namespace Joint

/-- How tightly a sign holds its parts together. -/
def strength : Joint → Nat
  | comma => 1
  | either => 2
  | both => 3

/-- Two parts that a sign joins. -/
def join : Joint → SearchTree → SearchTree → SearchTree
  | comma => .sequence
  | either => .either
  | both => .both

end Joint

/-- How tightly the sign of a negation holds its part. -/
def negationStrength : Nat :=
  4

/-- A sign or a part of a search.  Parentheses may be put around a search that has none. -/
inductive SearchToken where
  | part (part : SearchPart)
  | negation (name : String)
  | joint (joint : Joint) (name : String)
  | opening (name : String)
  | closing (isOwn : Bool)

namespace SearchToken

/-- What stands in the place of a part that is missing, in front of a closing parenthesis. -/
def lackBehind (before : Option SearchToken) (isOwn : Bool) : SearchFault :=
  let name? := match before with
    | some (negation name) => some name
    | some (joint _ name) => some name
    | _ => none
  match name?, isOwn with
  | some name, false => .nothingBeforeClosing name
  | some name, true => .nothingBehind name
  | none, _ => .strayClosing

mutual

/-- Takes what is joined more tightly than by signs of a strength. -/
def takeTree (fuel strength : Nat) (before : Option SearchToken) (tokens : List SearchToken) :
    Except SearchFault (SearchTree × List SearchToken) :=
  match fuel with
  | 0 => .error .incomplete
  | fuel + 1 =>
    match tokens with
    | [] => .error .incomplete
    | joint _ name :: _ => .error (.nothingBefore name)
    | closing isOwn :: _ => .error (lackBehind before isOwn)
    | part p :: rest => takeJoined fuel strength (.part p) rest
    | negation name :: rest => do
      let (inner, rest) ← takeTree fuel negationStrength (some (negation name)) rest
      takeJoined fuel strength (.negate inner) rest
    | opening name :: rest =>
      match rest with
      | [] => .error (.unclosed name)
      | closing true :: _ => .error (.unclosed name)
      | closing false :: _ => .error .emptyParentheses
      | rest => do
        let (inner, rest) ← takeTree fuel 0 (some (opening name)) rest
        match rest with
        | closing _ :: rest => takeJoined fuel strength inner rest
        | _ => .error .noClosing

/-- Takes what signs join to a part. -/
def takeJoined (fuel strength : Nat) (left : SearchTree) (tokens : List SearchToken) :
    Except SearchFault (SearchTree × List SearchToken) :=
  match fuel with
  | 0 => .error .incomplete
  | fuel + 1 =>
    match tokens with
    | joint j name :: rest =>
      if j.strength ≤ strength then .ok (left, tokens)
      else do
        let (right, rest) ← takeTree fuel j.strength (some (joint j name)) rest
        takeJoined fuel strength (j.join left right) rest
    | _ => .ok (left, tokens)

end

/-- The parts that signs join. -/
def tree (tokens : List SearchToken) : Except SearchFault SearchTree := do
  match ← takeTree (4 * tokens.length + 4) 0 none tokens with
  | (tree, []) => return tree
  | _ => throw .strayClosing

end SearchToken

/-! ## Reading arguments -/

/-- What has been read of the arguments of a search. -/
structure SearchReading where
  search : Search
  /-- The signs and parts, in reverse order. -/
  tokens : List SearchToken := []
  form : Option ExpressionForm := none
  /-- Something is done with what is found. -/
  acts : Bool := false
  deletes : Bool := false
  prunes : Bool := false
  /-- It was asked for what is in a directory to come before it. -/
  asksForInner : Bool := false
  /-- How many commands are run. -/
  runs : Nat := 0

namespace SearchReading

/-- What has been read with a sign or a part more.  Two parts without a sign between them both have to hold. -/
def withToken (r : SearchReading) (token : SearchToken) : SearchReading :=
  let joint := SearchToken.joint .both "-a"
  match token, r.tokens with
  | .closing _, _ => { r with tokens := token :: r.tokens }
  | .joint .., _ => { r with tokens := token :: r.tokens }
  | _, .part _ :: _ => { r with tokens := token :: joint :: r.tokens }
  | _, .closing _ :: _ => { r with tokens := token :: joint :: r.tokens }
  | _, _ => { r with tokens := token :: r.tokens }

/-- What has been read with a part more. -/
def withPart (r : SearchReading) (part : SearchPart) : SearchReading :=
  r.withToken (.part part)

/-- What has been read with something more that is done. -/
def withAct (r : SearchReading) (part : SearchPart) : SearchReading :=
  { r.withPart part with acts := true }

/-- The words of a command up to the sign that ends it, with the arguments behind that. -/
def takeRun (name : String) (args : List String) : Except SearchFault (FoundRun × List String) :=
  let isInside := name == "-execdir" || name == "-okdir"
  let isAsked := name == "-ok" || name == "-okdir"
  let marks := "\x7b\x7d"
  let hasMarks := fun (word : String) => (splitOn marks.toList word.toList).length ≠ 1
  let rec go (words : List String) : List String → Except SearchFault (FoundRun × List String)
    | [] => .error (.missingArgument name)
    | arg :: rest =>
      if arg == ";" then
        if words.isEmpty then .error (.invalidArgument ";" name)
        else .ok ({ words := words.reverse, isInside, isAsked }, rest)
      else if arg == "+" && !isAsked && words.head?.any hasMarks then
        let own := "-exec" ++ (if isInside then "dir" else "") ++ " ... "
        if 1 < (words.filter hasMarks).length then
          .error (.other ("Only one instance of " ++ marks ++ " is supported with " ++ own ++ "+"))
        else if words.head? != some marks then
          .error (.other ("In " ++ quoted (own ++ marks ++ " +") ++ " the " ++ quoted marks ++
            " must appear by itself, but you specified " ++ quoted (words.headD "")))
        else .ok ({ words := (words.drop 1).reverse, isTogether := true, isInside }, rest)
      else go (arg :: words) rest
  go [] args

/-- What a part without arguments stands for. -/
def plainPart? (r : SearchReading) (name : String) : Option SearchReading :=
  let inner := { r.search with isInnerFirst := true }
  match name with
  | "(" => some (r.withToken (.opening name))
  | ")" => some (r.withToken (.closing false))
  | "!" => some (r.withToken (.negation name))
  | "-not" => some (r.withToken (.negation name))
  | "," => some (r.withToken (.joint .comma name))
  | "-a" => some (r.withToken (.joint .both name))
  | "-and" => some (r.withToken (.joint .both name))
  | "-o" => some (r.withToken (.joint .either name))
  | "-or" => some (r.withToken (.joint .either name))
  | "-true" => some (r.withPart (.constant true))
  | "-false" => some (r.withPart (.constant false))
  | "-readable" => some (r.withPart (.constant true))
  | "-writable" => some (r.withPart (.constant true))
  | "-nouser" => some (r.withPart (.constant false))
  | "-nogroup" => some (r.withPart (.constant false))
  | "-executable" => some (r.withPart .isProgram)
  | "-empty" => some (r.withPart .isEmpty)
  | "-prune" => some { r.withPart .prune with prunes := true }
  | "-quit" => some (r.withPart .quit)
  | "-delete" => some { r.withAct .delete with search := inner, deletes := true }
  | "-print" => some (r.withAct (.print "\n"))
  | "-print0" => some (r.withAct (.print "\x00"))
  | "-depth" => some { r with search := inner, asksForInner := true }
  | "-d" => some { r with search := inner, asksForInner := true }
  | "-follow" => some { r with search := { r.search with links := .all } }
  | _ =>
    if ["-xdev", "-mount", "-noleaf", "-daystart", "-warn", "-nowarn", "-ignore_readdir_race",
        "-noignore_readdir_race"].contains name then some r
    else none

/-- What a part with an argument stands for; nothing if there is no such part. -/
def partWith? (m : Machine) (r : SearchReading) (name text : String) : Option (Except SearchFault SearchReading) :=
  let pattern : Pattern := .ofText text.toList
  let small : Pattern := .ofText (text.toList.map Char.toLower)
  let part := fun (p : SearchPart) => some (.ok (r.withPart p))
  let checked := fun (p : Except SearchFault SearchPart) => some (p.map r.withPart)
  let wrong : Except SearchFault SearchPart := .error (.invalidArgument text name)
  let figure := fun (test : Relation → Nat → SearchPart) =>
    checked (((readFigure? text).map fun (relation, n) => Except.ok (test relation n)).getD wrong)
  let age := fun (inMinutes : Bool) =>
    checked (((isNewFor? inMinutes text).map fun holds => Except.ok (.constant holds)).getD wrong)
  let owner := fun (what : String) =>
    checked (if text == userName || text.toList.all isAsciiDigit && !text.isEmpty then
        .ok (.constant (text == userName || text.toList.all (· == '0')))
      else .error (.other (quoted text ++ what)))
  let existing := fun (test : Option Location → SearchPart) =>
    checked (match m.reach text with
      | .ok _ => .ok (test (canonical? m.disk m.directory text))
      | .error why => .error (.other (quoted text ++ ": " ++ why.message)))
  let depth := fun (set_ : Nat → Search) =>
    some (if !text.isEmpty && text.toList.all isAsciiDigit then
        .ok { r with search := set_ (asciiValue text.toList) }
      else .error (.other ("Expected a positive decimal integer argument to " ++ name ++ ", but got " ++
        quoted text)))
  match name with
  | "-name" => part (.name pattern false)
  | "-iname" => part (.name small true)
  | "-path" => part (.path pattern false)
  | "-wholename" => part (.path pattern false)
  | "-ipath" => part (.path small true)
  | "-iwholename" => part (.path small true)
  | "-lname" => part (.target pattern false)
  | "-ilname" => part (.target small true)
  | "-regex" => checked ((readWholeExpression r.form text).map fun e => .fits e false)
  | "-iregex" => checked ((readWholeExpression r.form text).map fun e => .fits e true)
  | "-regextype" =>
    some (match expressionKinds.lookup text with
      | some form => .ok { r with form }
      | none => .error (.other ("Unknown regular expression type " ++ quoted text ++ "; valid types are " ++
        ", ".intercalate (expressionKinds.map fun (name, _) => quoted name) ++ ".")))
  | "-type" => checked ((readKinds name text).map fun letters => .kind letters false)
  | "-xtype" => checked ((readKinds name text).map fun letters => .kind letters true)
  | "-size" => checked (readSize text)
  | "-perm" => checked (readModeTest text)
  | "-links" => figure .linkCount
  | "-inum" => figure fun _ _ => .constant false
  | "-uid" => figure fun relation n => .constant (relation.holds 0 n)
  | "-gid" => figure fun relation n => .constant (relation.holds 0 n)
  | "-user" => owner " is not the name of a known user"
  | "-group" => owner " is not the name of an existing group"
  | "-mtime" => age false
  | "-atime" => age false
  | "-ctime" => age false
  | "-mmin" => age true
  | "-amin" => age true
  | "-cmin" => age true
  | "-newer" => existing fun _ => .constant false
  | "-anewer" => existing fun _ => .constant false
  | "-cnewer" => existing fun _ => .constant false
  | "-samefile" => existing .isAt
  | "-maxdepth" => depth fun n => { r.search with maxDepth := some n }
  | "-mindepth" => depth fun n => { r.search with minDepth := n }
  | "-printf" =>
    some (match FormatPart.read (text.length + 1) [] text.toList with
      | .ok (parts, warnings) =>
        let r := r.withAct (.format parts)
        .ok { r with search := { r.search with
          warnings := r.search.warnings ++ warnings.map ("find: warning: " ++ ·) } }
      | .error what => .error (.other ("error: " ++ what)))
  | _ => none

/-- Whether an argument is a sign or a part, and not a path; two signs are paths in front of all parts. -/
def isToken (isFirst : Bool) (arg : String) : Bool :=
  match arg.toList with
  | '-' :: rest => !rest.isEmpty
  | [')'] => !isFirst
  | [','] => !isFirst
  | ['!'] => true
  | ['('] => true
  | _ => false

/-- Reads the arguments behind the paths. -/
def readTokens (m : Machine) (fuel : Nat) (before : String) (r : SearchReading) (args : List String) :
    Except SearchFault SearchReading :=
  match fuel with
  | 0 => .ok r
  | fuel + 1 =>
    match args with
    | [] => .ok r
    | name :: rest =>
      if !isToken false name then
        .error (.latePath name (if (m.reach name).isOk then some before else none))
      else if ["-exec", "-execdir", "-ok", "-okdir"].contains name then do
        let (run, rest) ← takeRun name rest
        readTokens m fuel name { r.withAct (.run r.runs run) with runs := r.runs + 1 } rest
      else
        match r.plainPart? name, rest with
        | some r, rest => readTokens m fuel name r rest
        | none, [] =>
          .error (if (r.partWith? m name "").isSome then .missingArgument name else .unknown name)
        | none, text :: rest =>
          match r.partWith? m name text with
          | none => .error (.unknown name)
          | some (.error fault) => .error fault
          | some (.ok r) => readTokens m fuel name r rest

end SearchReading

namespace Search

/-- The options in front of the paths, and the arguments behind them. -/
def takeOptions (links : LinkRule) : List String → Except SearchFault (LinkRule × List String)
  | [] => .ok (links, [])
  | arg :: rest =>
    if arg == "-P" then takeOptions .none_ rest
    else if arg == "-H" then takeOptions .starts rest
    else if arg == "-L" then takeOptions .all rest
    else if arg == "--" then .ok (links, rest)
    else if arg.toList.take 2 == "-O".toList then
      if arg.length = 2 || !(arg.toList.drop 2).all isAsciiDigit then
        .error (.other "The -O option must be immediately followed by a decimal integer")
      else takeOptions links rest
    else .ok (links, arg :: rest)

/-- The search that arguments mean. -/
def read (m : Machine) (args : List String) : Except SearchFault Search := do
  let (links, args) ← takeOptions .none_ args
  let starts := args.takeWhile fun arg => !SearchReading.isToken true arg
  let parts := args.drop starts.length
  let begun : Search := { starts := if starts.isEmpty then ["."] else starts, links }
  let r ← SearchReading.readTokens m (parts.length + 1) "" { search := begun } parts
  if r.deletes && r.prunes && !r.asksForInner then throw .deletesUnderPrune
  let tokens := r.tokens.reverse
  if tokens.isEmpty then return r.search
  let whole := if r.acts then tokens
    else [SearchToken.opening "("] ++ tokens ++ [.closing true, .joint .both "-a", .part (.print "\n")]
  return { r.search with tree := ← SearchToken.tree whole }

end Search

end ProjectCheck.Shell
