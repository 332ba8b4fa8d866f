import ProjectCheck.Shell.Machine

/-!
# Options of tools

The arguments of a tool are options and operands in any order.  An option is a letter behind a dash,
several of which may share one dash, or a long name behind two dashes.  Some options have a value,
which stands right behind the letter, behind an equals sign after the long name, or in the next
argument.  All arguments behind two dashes are operands.
-/

namespace ProjectCheck.Shell

/-- Why an option cannot be used. -/
inductive OptionFault where
  | unknownLetter (letter : Char)
  | unknownName (name : String)
  /-- Several names begin as it does. -/
  | ambiguous (name : String) (names : List String)
  | missingValue (letter : Char)
  | missingNamedValue (name : String)
  /-- It has a value but should have none. -/
  | needlessValue (name : String)
deriving Repr, DecidableEq

/-- What a tool says of an option that cannot be used. -/
def OptionFault.message : OptionFault → String
  | unknownLetter letter => "invalid option -- '" ++ String.singleton letter ++ "'"
  | unknownName name => "unrecognized option '--" ++ name ++ "'"
  | ambiguous name names => "option '--" ++ name ++ "' is ambiguous; possibilities:" ++
    String.join (names.map fun other => " '--" ++ other ++ "'")
  | missingValue letter => "option requires an argument -- '" ++ String.singleton letter ++ "'"
  | missingNamedValue name => "option '--" ++ name ++ "' requires an argument"
  | needlessValue name => "option '--" ++ name ++ "' doesn't allow an argument"

/-- Arguments taken apart. -/
structure Options where
  /-- The options with their values, which are empty for those without. -/
  given : List (Char × String) := []
  operands : List String := []
  /-- What is wrong with the first option that cannot be used. -/
  fault : Option OptionFault := none
deriving Repr, DecidableEq

/-- What the options of a tool look like. -/
structure OptionForm where
  tool : String := ""
  /-- The letters of the options without a value.  An option that has only a long name goes by a letter that no
  one writes. -/
  plain : List Char := []
  /-- The letters of the options that have a value. -/
  valued : List Char := []
  /-- The letters of the options that have a value only if it stands right behind them. -/
  attached : List Char := []
  /-- The letters that long names stand for. -/
  long : List (String × Char) := []
  /-- The letters of long names that may have a value. -/
  free : List Char := []
  /-- The status of the tool when an option cannot be used. -/
  faultStatus : Nat := 1
  /-- What is said of the use of the tool. -/
  usage : String := ""
deriving Repr

/-- The long name that a text is the beginning of, with its letter. -/
def OptionForm.named (form : OptionForm) (name : String) : Except OptionFault (String × Char) :=
  match form.long.find? (·.1 == name) with
  | some found => .ok found
  | none =>
    match form.long.filter fun l => name.toList.isPrefixOf l.1.toList with
    | [] => .error (.unknownName name)
    | first :: others =>
      if others.all fun l => l.2 == first.2 then .ok first
      else .error (.ambiguous name ((first :: others).map (·.1)))

/-- Whether an argument is an option whose value is the next argument. -/
def OptionForm.takesNext (form : OptionForm) (arg : String) : Bool :=
  match arg.toList with
  | '-' :: '-' :: long =>
    !long.contains '=' && match form.named (String.ofList long) with
      | .ok (_, c) => !long.isEmpty && form.valued.contains c
      | .error _ => false
  | '-' :: letters =>
    match letters.dropWhile fun c => !(form.valued.contains c || form.attached.contains c) with
    | [c] => form.valued.contains c
    | _ => false
  | _ => false

/-- The options in front of the first operand, and the arguments from there on.  Some arguments with a dash
may be operands too. -/
def splitFromOperands (isOperand : String → Bool) (form : OptionForm) :
    List String → List String × List String
  | "--" :: rest => ([], rest)
  | arg :: rest =>
    if isOperand arg || arg.toList.head? != some '-' || arg.length = 1 then ([], arg :: rest)
    else if form.takesNext arg then
      match rest with
      | value :: rest =>
        let (options, words) := splitFromOperands isOperand form rest
        (arg :: value :: options, words)
      | [] => ([arg], [])
    else
      let (options, words) := splitFromOperands isOperand form rest
      (arg :: options, words)
  | [] => ([], [])

/-- The options in front of a command, and the command: no option stands behind the first word that is
none. -/
def splitFromCommand (form : OptionForm) : List String → List String × List String :=
  splitFromOperands (fun _ => false) form

namespace Options

/-- The options with one more. -/
def withOption (letter : Char) (value : String) (o : Options) : Options :=
  { o with given := (letter, value) :: o.given }

/-- The options behind one that may be wrong. -/
def behind (fault : Option OptionFault) (o : Options) : Options :=
  { o with fault := fault <|> o.fault }

/-- What is wrong with an option that is known by its letter. -/
def faultOfLetter? (form : OptionForm) (c : Char) : Option OptionFault :=
  if form.plain.contains c then none else some (.unknownLetter c)

/-- The options of the letters behind a dash with what is wrong with them; the letter of an option
that still needs a value comes with the arguments to go on with. -/
def ofLetters (form : OptionForm) : List Char → Options × Option Char
  | [] => ({}, none)
  | c :: rest =>
    if form.valued.contains c then
      if rest.isEmpty then ({}, some c) else (withOption c (String.ofList rest) {}, none)
    else if form.attached.contains c then (withOption c (String.ofList rest) {}, none)
    else
      let (others, open_) := ofLetters form rest
      ((others.withOption c "").behind (faultOfLetter? form c), open_)

/-- Takes arguments apart, `waiting` being the option that needs the next argument, which may have
been given by its name. -/
def readFrom (form : OptionForm) (waiting : Option (Char × Option String)) : List String → Options
  | [] =>
    match waiting with
    | none => {}
    | some (_, some name) => { fault := some (.missingNamedValue name) }
    | some (c, none) => { fault := some (.missingValue c) }
  | arg :: rest =>
    match waiting with
    | some (c, _) => (readFrom form none rest).withOption c arg
    | none =>
      match arg.toList with
      | ['-', '-'] => { operands := rest }
      | '-' :: '-' :: long =>
        let name := String.ofList (long.takeWhile (· != '='))
        match form.named name with
        | .error fault => (readFrom form none rest).behind (some fault)
        | .ok (whole, c) =>
          if name.length < long.length then
            ((readFrom form none rest).withOption c
              (String.ofList (long.drop (name.length + 1)))).behind
                (if form.plain.contains c && !form.free.contains c then some (.needlessValue whole)
                  else none)
          else if form.valued.contains c then readFrom form (some (c, some whole)) rest
          else (readFrom form none rest).withOption c ""
      | '-' :: c :: letters =>
        let (own, waiting) := ofLetters form (c :: letters)
        let others := readFrom form (waiting.map (·, none)) rest
        { others with given := own.given ++ others.given, fault := own.fault <|> others.fault }
      | _ =>
        let others := readFrom form none rest
        { others with operands := arg :: others.operands }

/-- Takes arguments apart. -/
def read (form : OptionForm) (args : List String) : Options :=
  readFrom form none args

/-- Whether an option is given. -/
def has (o : Options) (letter : Char) : Bool :=
  o.given.any (·.1 == letter)

/-- The value that was given last for an option. -/
def value? (o : Options) (letter : Char) : Option String :=
  ((o.given.filter (·.1 == letter)).getLast?).map (·.2)

/-- All values that were given for an option, in order. -/
def values (o : Options) (letter : Char) : List String :=
  (o.given.filter (·.1 == letter)).map (·.2)

end Options

/-- What is said of an option that cannot be used. -/
def OptionForm.complaint (form : OptionForm) (fault : OptionFault) : String :=
  form.tool ++ ": " ++ fault.message ++ "\n" ++
    if form.usage.isEmpty then "Try '" ++ form.tool ++ " --help' for more information."
    else form.usage

/-- A tool that refuses options which it does not know. -/
def withOptions (form : OptionForm) (use : Options → Machine → Nat × Machine) : Tool := fun args m =>
  let o := Options.read form args
  match o.fault with
  | none => use o m
  | some fault => (form.faultStatus, m.complain (form.complaint fault))

end ProjectCheck.Shell
