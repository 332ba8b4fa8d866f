import ProjectCheck.Text.Cut
import ProjectCheck.Text.Quoted
import ProjectCheck.Text.Similarity

/-!
# Faults of use

What may be wrong with the words of a command line, and what is said about it.
-/

namespace ProjectCheck.CommandLine

open ProjectCheck.Text

/-- What a path should lead to. -/
inductive PathKind where
  | file
  | directory
deriving Repr, DecidableEq

/-- The name of a kind at the beginning of a sentence. -/
def PathKind.name : PathKind → String
  | file => "File"
  | directory => "Directory"

/-- What a path leads to instead. -/
inductive PathFault where
  | absent
  | isFile
  | isDirectory
deriving Repr, DecidableEq

/-- What is said of a path, behind its name. -/
def PathFault.message : PathFault → String
  | absent => "does not exist."
  | isFile => "is a file."
  | isDirectory => "is a directory."

/-- What is wrong with the words of a command line. -/
inductive UsageFault where
  /-- There are no words at all. -/
  | nothingAsked
  | commandMissing
  | noSuchCommand (name : String) (similar : List String)
  | noSuchOption (name : String) (similar : List String)
  /-- An option is the last word and should have a value. -/
  | valueNeeded (option : String)
  /-- An option has a value and should have none. -/
  | valueRefused (option : String)
  | argumentMissing (name : String)
  | argumentsLeft (first : String) (others : List String)
  | wrongPath (parameter : String) (kind : PathKind) (path : String) (fault : PathFault)
deriving Repr, DecidableEq

/-- A sentence, followed by the names that may have been meant. -/
def suggesting (sentence : String) : List String → String
  | [] => sentence
  | [name] => sentence ++ " Did you mean " ++ quotedString name ++ "?"
  | names =>
    sentence ++ " (Did you mean one of: " ++ ", ".intercalate (names.map quotedString) ++ "?)"

/-- What is said about a fault; nothing if help is shown instead. -/
def UsageFault.message? : UsageFault → Option String
  | nothingAsked => none
  | commandMissing => some "Missing command."
  | noSuchCommand name similar =>
    some (suggesting ("No such command " ++ quotedString name ++ ".") similar)
  | noSuchOption name similar =>
    some (suggesting ("No such option " ++ quotedString name ++ ".") similar)
  | valueNeeded option => some ("Option " ++ quotedString option ++ " requires an argument.")
  | valueRefused option => some ("Option " ++ quotedString option ++ " does not take a value.")
  | argumentMissing name => some ("Missing argument '" ++ name ++ "'.")
  | argumentsLeft word [] => some ("Got unexpected extra argument (" ++ word ++ ")")
  | argumentsLeft word others =>
    some ("Got unexpected extra arguments (" ++ " ".intercalate (word :: others) ++ ")")
  | wrongPath parameter kind path fault =>
    some ("Invalid value for '" ++ parameter ++ "': " ++ kind.name ++ " " ++ quotedString path ++
      " " ++ fault.message)

/-!
## Words of a command line

The words behind a command are options and arguments.  An option is written out after two dashes, and
its value is the next word, whatever it looks like, or follows an equals sign.  Some options have a
letter too; letters stand together after one dash and take no values.  Two dashes alone end the
options.  A dash alone is an argument.

Where arguments and options may not be mixed, the first argument ends the options.
-/

/-- What goes with an option. -/
inductive OptionValue where
  | nothing
  /-- A path; of several the last one counts. -/
  | path (kind : PathKind)
  /-- A path, as often as one likes. -/
  | paths (kind : PathKind)
deriving Repr, DecidableEq

/-- An option that a command knows. -/
structure OptionForm where
  name : String
  letter : Option Char := none
  value : OptionValue := .nothing
deriving Repr, DecidableEq

/-- The options and arguments that were given, in order. -/
structure Given where
  options : List (String × Option String) := []
  arguments : List String := []
deriving Repr, DecidableEq

namespace Given

/-- What was given, with an option before it. -/
def withOption (name : String) (value : Option String) (given : Given) : Given :=
  { given with options := (name, value) :: given.options }

/-- What was given, with an argument before it. -/
def withArgument (word : String) (given : Given) : Given :=
  { given with arguments := word :: given.arguments }

/-- Whether an option was given. -/
def has (given : Given) (name : String) : Bool :=
  given.options.any fun option => option.1 == name

/-- The values given with an option. -/
def values (given : Given) (name : String) : List String :=
  given.options.filterMap fun option => if option.1 == name then option.2 else none

/-- The value of an option of which the last value counts. -/
def value? (given : Given) (name : String) : Option String :=
  (given.values name).getLast?

end Given

/-- Whether a word is an option. -/
def isOption (word : String) : Bool :=
  word.toList.head? == some '-' && 1 < word.length

/-- A word cut at its first equals sign. -/
def atEqualsSign (word : String) : String × Option String :=
  match cutAt? ['='] word.toList with
  | some (name, value) => (String.ofList name, some (String.ofList value))
  | none => (word, none)

/-- The options that letters stand for. -/
def readLetters (forms : List OptionForm) :
    List Char → Except UsageFault (List (String × Option String))
  | [] => .ok []
  | c :: rest =>
    match forms.find? fun form => form.letter == some c with
    | none => .error (.noSuchOption (String.ofList ['-', c]) [])
    | some form => ((form.name, none) :: ·) <$> readLetters forms rest

/-- The options that a word stands for that is no name of one. -/
def readUnnamed (forms : List OptionForm) (word : String) :
    Except UsageFault (List (String × Option String)) :=
  match word.toList with
  | '-' :: '-' :: _ =>
    let name := (atEqualsSign word).1
    .error (.noSuchOption name (mostSimilar name (forms.map (·.name))))
  | chars => readLetters forms (chars.drop 1)

/-- Sorts words into options and arguments, which may be mixed or not. -/
def readWords (forms : List OptionForm) (mixed : Bool) : List String → Except UsageFault Given
  | [] => .ok {}
  | word :: rest =>
    if word == "--" then .ok { arguments := rest }
    else if !isOption word then
      if mixed then Given.withArgument word <$> readWords forms mixed rest
      else .ok { arguments := word :: rest }
    else
      let (name, attached) := atEqualsSign word
      match forms.find? fun form => form.name == name with
      | none =>
        match readUnnamed forms word with
        | .error fault => .error fault
        | .ok options =>
          (fun given => { given with options := options ++ given.options }) <$>
            readWords forms mixed rest
      | some form =>
        match form.value, attached with
        | .nothing, none => Given.withOption name none <$> readWords forms mixed rest
        | .nothing, some _ => .error (.valueRefused name)
        | _, some value => Given.withOption name (some value) <$> readWords forms mixed rest
        | _, none =>
          match rest with
          | [] => .error (.valueNeeded name)
          | value :: others =>
            Given.withOption name (some value) <$> readWords forms mixed others

end ProjectCheck.CommandLine
