import ProjectCheck.Shell.Record.Script
import ProjectCheck.Shell.Redirection

/-!
# Running scripts for records

A script is run on the records of files, one after the other.  A record is split into fields, and it
follows a field that is given a value, as the fields follow the record.

What is printed is kept with the place that it goes to, and is passed on when the run has ended.
-/

namespace ProjectCheck.Shell.Record

open ProjectCheck.Number

/-- What a name of a procedure stands for while the procedure runs: a value, and the name under
which its elements are kept. -/
structure Own where
  cell : Cell
  array : String
deriving Repr, Inhabited

/-- How the carrying out of statements is broken off. -/
inductive Stop where
  | nextRecord
  | exit
  | left
  | goneOn
  | returned (value : Cell)
  /-- No end is in sight, or something is asked for that cannot be done. -/
  | fault (what : String)
deriving Repr, Inhabited

/-- The state of a run. -/
structure Run where
  bindings : Table String Cell := []
  /-- The elements of all arrays. -/
  arrays : Table String (Table (List Char) Cell) := []
  record : Cell := .unset
  fields : List Cell := []
  /-- What the names of the procedures at work stand for, the innermost procedure first. -/
  frames : List (Table String Own) := []
  /-- How many arrays procedures have had for themselves. -/
  arrayCount : Nat := 0
  /-- The rules that are between two records. -/
  begun : List Nat := []
  /-- The records that are left of the file at work. -/
  left : List (List Char) := []
  /-- What was printed, with the path of the file that it goes to and whether that file is kept, the
  latest first. -/
  printed : List (Option (List Char × Bool) × List Char) := []
  status : Nat := 0
deriving Repr, Inhabited

/-- What is done in a run. -/
abbrev Work :=
  ExceptT Stop (StateM Run)

/-! ## Records and fields -/

/-- The words of a text between gaps. -/
def wordsOf (s : List Char) : List (List Char) :=
  (s.splitOnP isGap).filter (!·.isEmpty)

/-- The parts of a text between what fits an expression. -/
def partsBetween (e : Expression) (s : List Char) : List (List Char) :=
  let found := (e.findAll { chars := s.toArray }).filter fun f => f.first < f.last
  let (parts, start) := found.foldl (fun (parts, start) f =>
    (parts ++ [(s.drop start).take (f.first - start)], f.last)) (([] : List (List Char)), 0)
  parts ++ [s.drop start]

/-- The expression that a text means; one that cannot be read fits only itself. -/
def expressionOfText (s : List Char) : Expression :=
  (Expression.read .countless s).toOption.getD (Expression.ofText s)

/-- The parts of a text at a separator: at gaps for a blank, at a single sign for that sign, and else
at what fits the separator as an expression. -/
def splitAt (separator s : List Char) : List (List Char) :=
  if s.isEmpty then []
  else
    match separator with
    | [' '] => wordsOf s
    | [] => s.map fun c => [c]
    | [c] => Text.pieces c s
    | e => partsBetween (expressionOfText e) s

/-- The records of a text: its lines, its paragraphs for an empty separator, or its parts at another
separator. -/
def recordsOf (separator s : List Char) : List (List Char) :=
  let withoutEnd := fun (parts : List (List Char)) =>
    if parts.getLast? == some [] then parts.dropLast else parts
  match separator with
  | [] =>
    let body := Text.dropEndWhile (· == '\n') (s.dropWhile (· == '\n'))
    if body.isEmpty then []
    else partsBetween (.sequence (.exactly '\n') (.repeated 1 none (.exactly '\n'))) body
  | [c] => withoutEnd (Text.pieces c s)
  | e => withoutEnd (partsBetween (expressionOfText e) (Text.dropEndWhile (· == '\n') s))

namespace Run

/-- The value of a variable that belongs to no procedure. -/
def value (r : Run) (name : String) : Cell :=
  if name == "NF" then .ofNat r.fields.length else (Table.get? name r.bindings).getD .unset

/-- Takes a record apart. -/
def withRecord (r : Run) (record : Cell) : Run :=
  { r with
    record, fields := (splitAt (r.value "FS").toChars record.toChars).map .input }

/-- Puts a record together from fields. -/
def withFields (r : Run) (fields : List Cell) : Run :=
  let separator := (r.value "OFS").toChars
  { r with fields, record := .text (separator.intercalate (fields.map Cell.toChars)) }

/-- Gives a variable a value.  The number of fields, too, can be given. -/
def assign (r : Run) (name : String) (value : Cell) : Run :=
  if name == "NF" then
    let count := value.toInt.toNat
    r.withFields (r.fields.take count ++ List.replicate (count - r.fields.length) .unset)
  else { r with bindings := Table.put name value r.bindings }

/-- A field; the one before the first is the record. -/
def field (r : Run) (number : Nat) : Cell :=
  if number = 0 then r.record else (r.fields[number - 1]?).getD .unset

/-- Gives a field a value. -/
def assignField (r : Run) (number : Nat) (value : Cell) : Run :=
  if number = 0 then r.withRecord value
  else
    let padded := r.fields ++ List.replicate (number - r.fields.length) .unset
    r.withFields (padded.set (number - 1) value)

/-- The elements of an array. -/
def elements (r : Run) (array : String) : Table (List Char) Cell :=
  (Table.get? array r.arrays).getD []

/-- An array with other elements. -/
def withElements (r : Run) (array : String) (elements : Table (List Char) Cell) : Run :=
  { r with arrays := Table.put array elements r.arrays }

/-- The name under which the elements of an array are kept. -/
def arrayOf (r : Run) (name : String) : String :=
  ((r.frames.head?.bind (Table.get? name)).map (·.array)).getD name

/-- The value of a name, which may belong to the procedure at work. -/
def valueOf (r : Run) (name : String) : Cell :=
  match r.frames.head?.bind (Table.get? name) with
  | some own => own.cell
  | none => r.value name

/-- Gives a name a value, which may belong to the procedure at work. -/
def assignTo (r : Run) (name : String) (value : Cell) : Run :=
  match r.frames with
  | frame :: outer =>
    match Table.get? name frame with
    | some own => { r with frames := Table.put name { own with cell := value } frame :: outer }
    | none => r.assign name value
  | [] => r.assign name value

/-- The next record is the one at work. -/
def begin_ (r : Run) (record : List Char) : Run :=
  let count := fun (name : String) (r : Run) =>
    r.assign name (.number ((r.value name).toNumber + 1.0))
  (count "FNR" (count "NR" r)).withRecord (.input record)

/-- Prints something. -/
def print (r : Run) (outlet : Option (List Char × Bool)) (s : List Char) : Run :=
  { r with printed := (outlet, s) :: r.printed }

end Run

/-! ## Joined values -/

/-- A number to the power of another. -/
def powerOf (x y : Float) : Float :=
  x ^ y

/-- What is left of a number divided by another. -/
def remainderOf (x y : Float) : Float :=
  match truncateFloat? (x / y) with
  | some n => x - floatOfInt n * y
  | none => 0.0 / 0.0

/-- The value of two joined values. -/
def Joint.applied (a b : Cell) : Joint → Cell
  | add => .number (a.toNumber + b.toNumber)
  | subtract => .number (a.toNumber - b.toNumber)
  | multiply => .number (a.toNumber * b.toNumber)
  | divide => .number (a.toNumber / b.toNumber)
  | remainder => .number (remainderOf a.toNumber b.toNumber)
  | power => .number (powerOf a.toNumber b.toNumber)
  | concatenate => .text (a.toChars ++ b.toChars)
  | compare sign => .ofBool (Cell.compare sign a b)

/-- Values in a form. -/
def formed : Nat → List Char → List Cell → List Char
  | 0, _, _ => []
  | _ + 1, [], _ => []
  | fuel + 1, '%' :: '%' :: rest, args => '%' :: formed fuel rest args
  | fuel + 1, '%' :: rest, args =>
    let signs := rest.takeWhile "#-+ 0".toList.contains
    let size := fun (s : List Char) (args : List Cell) =>
      match s with
      | '*' :: s => (some ((args.head?.map Cell.toInt).getD 0), s, args.drop 1)
      | s =>
        let digits := s.takeWhile Char.isDigit
        ((if digits.isEmpty then none else some ((asciiValue digits : Nat) : Int)),
          s.drop digits.length, args)
    let (width, behind, args) := size (rest.drop signs.length) args
    let (precision, behind, args) := match behind with
      | '.' :: behind =>
        let (n, behind, args) := size behind args
        (some (n.getD 0).toNat, behind, args)
      | behind => (none, behind, args)
    let width := width.getD 0
    let form : FormatForm :=
      { signs := if width < 0 then '-' :: signs else signs, width := width.natAbs, precision }
    match behind with
    | [] => '%' :: rest
    | letter :: behind =>
      let arg := (args.head?).getD .unset
      let shown := fun (bytes : List UInt8) => charsOf bytes ++ formed fuel behind (args.drop 1)
      let cut := fun (s : List Char) => (match precision with
        | some n => s.take n
        | none => s)
      if letter == 's' then shown (form.padded (bytesOfChars (cut arg.toChars)))
      else if letter == 'c' then
        shown (form.padded (bytesOfChars (match arg with
          | .number x => [Char.ofNat (((truncateFloat? x).getD 0).toNat % 256)]
          | other => other.toChars.take 1)))
      else if "dioxXu".toList.contains letter then shown (form.integer letter arg.toInt)
      else if "eEfFgG".toList.contains letter then shown (form.real letter arg.toNumber)
      else '%' :: formed fuel rest args
  | fuel + 1, c :: rest, args => c :: formed fuel rest args

/-- A part of a text: so many characters from a place on, counted from one; both are rounded. -/
def partOf (s : List Char) (start : Float) (size : Option Float) : List Char :=
  let round := fun (x : Float) => (truncateFloat? (x + 0.5).floor).getD (if x < 0.0 then -1000000000 else 1000000000)
  let first := round start
  let last := match size with
    | some n => first + round n
    | none => s.length + 1
  let begin_ := max first 1
  if last ≤ begin_ then [] else (s.drop (begin_ - 1).toNat).take (last - begin_).toNat

/-- A replacement with the text that it replaces in the place of ampersands. -/
def filled (taken : List Char) : List Char → List Char
  | [] => []
  | '\\' :: '&' :: rest => '&' :: filled taken rest
  | '\\' :: '\\' :: rest => '\\' :: filled taken rest
  | '&' :: rest => taken ++ filled taken rest
  | c :: rest => c :: filled taken rest

/-- A text with replacements for what fits an expression, and how many there are. -/
def replaced (e : Expression) (isAll : Bool) (replacement s : List Char) : List Char × Nat :=
  let subject : Expression.Subject := { chars := s.toArray }
  let found := if isAll then e.findAll subject else (e.find? subject 0).toList
  let (text, start) := found.foldl (fun (text, start) f =>
    (text ++ (s.drop start).take (f.first - start) ++
      filled ((s.drop f.first).take (f.last - f.first)) replacement, f.last)) (([] : List Char), 0)
  (text ++ s.drop start, found.length)

/-! ## Running -/

/-- A number of turns after which no end is in sight. -/
def turnLimit : Nat :=
  200000

/-- Goes on until there is an answer, or for a number of turns. -/
def turns (step : Work Bool) : Nat → Work Unit
  | 0 => throw (.fault "no end in sight")
  | n + 1 => do if ← step then turns step n

/-- Makes a turn of a loop, and says whether it is left. -/
def isLeft (body : Work Unit) : Work Bool := do
  match ← ExceptT.mk (Except.ok <$> body.run) with
  | .ok () => return false
  | .error .left => return true
  | .error .goneOn => return false
  | .error stop => throw stop

mutual

/-- The value of a formula. -/
def evaluate (s : Script) : Nat → Formula → Work Cell
  | 0, _ => throw (.fault "no end in sight")
  | fuel + 1, formula => do
    match formula with
    | .constant value => return value
    | .fits e =>
      let r ← get
      return .ofBool ((e.find? { chars := r.record.toChars.toArray } 0).isSome)
    | .variable_ name => return (← get).valueOf name
    | .field number =>
      let n ← evaluate s fuel number
      return (← get).field n.toInt.toNat
    | .element name keys =>
      let key ← keyOf s fuel keys
      let r ← get
      let array := r.arrayOf name
      match Table.get? key (r.elements array) with
      | some value => return value
      | none =>
        set (r.withElements array (Table.put key .unset (r.elements array)))
        return .unset
    | .assign target joint value =>
      let value ← evaluate s fuel value
      let value ← match joint with
        | none => pure value
        | some joint => do
          let old ← evaluate s fuel target
          pure (joint.applied old value)
      give s fuel target value
      return value
    | .step target isUp givesOld =>
      let old := (← evaluate s fuel target).toNumber
      let new := if isUp then old + 1.0 else old - 1.0
      give s fuel target (.number new)
      return .number (if givesOld then old else new)
    | .negate inner => return .number (-(← evaluate s fuel inner).toNumber)
    | .positive inner => return .number (← evaluate s fuel inner).toNumber
    | .not inner => return .ofBool (!(← evaluate s fuel inner).holds)
    | .join joint a b =>
      let first ← evaluate s fuel a
      let second ← evaluate s fuel b
      return joint.applied first second
    | .and a b =>
      if (← evaluate s fuel a).holds then return .ofBool (← evaluate s fuel b).holds
      else return .ofBool false
    | .or a b =>
      if (← evaluate s fuel a).holds then return .ofBool true
      else return .ofBool (← evaluate s fuel b).holds
    | .match_ isNegated text expression =>
      let text ← evaluate s fuel text
      let e ← expressionOf s fuel expression
      let found := (e.find? { chars := text.toChars.toArray } 0).isSome
      return .ofBool (found != isNegated)
    | .isKey keys name =>
      let key ← keyOf s fuel keys
      let r ← get
      return .ofBool (Table.has key (r.elements (r.arrayOf name)))
    | .choose test yes no =>
      if (← evaluate s fuel test).holds then evaluate s fuel yes else evaluate s fuel no
    | .enclosed inner =>
      match inner with
      | [one] => evaluate s fuel one
      | keys => return .text (← keyOf s fuel keys)
    | .next target =>
      let r ← get
      match r.left with
      | [] => return .number 0.0
      | record :: left =>
        set { r with left }
        match target with
        | none => modify (·.begin_ record)
        | some target => give s fuel target (.input record)
        return .number 1.0
    | .call name args =>
      match s.procedures.lookup name with
      | some procedure => callProcedure s fuel procedure args
      | none => callKnown s fuel name args

/-- The key that values make. -/
def keyOf (s : Script) : Nat → List Formula → Work (List Char)
  | 0, _ => throw (.fault "no end in sight")
  | fuel + 1, keys => do
    let values ← keys.mapM fun key => evaluate s fuel key
    return ((← get).value "SUBSEP").toChars.intercalate (values.map Cell.toChars)

/-- The expression that a formula stands for. -/
def expressionOf (s : Script) : Nat → Formula → Work Expression
  | 0, _ => throw (.fault "no end in sight")
  | fuel + 1, formula => do
    match formula with
    | .fits e => return e
    | other => return expressionOfText (← evaluate s fuel other).toChars

/-- Gives something a value. -/
def give (s : Script) : Nat → Formula → Cell → Work Unit
  | 0, _, _ => throw (.fault "no end in sight")
  | fuel + 1, target, value => do
    match target with
    | .variable_ name => modify (·.assignTo name value)
    | .field number =>
      let n ← evaluate s fuel number
      modify (·.assignField n.toInt.toNat value)
    | .element name keys =>
      let key ← keyOf s fuel keys
      modify fun r =>
        let array := r.arrayOf name
        r.withElements array (Table.put key value (r.elements array))
    | .enclosed [inner] => give s fuel inner value
    | _ => throw (.fault "syntax error")

/-- Runs a procedure of the script. -/
def callProcedure (s : Script) : Nat → Procedure → List Formula → Work Cell
  | 0, _, _ => throw (.fault "no end in sight")
  | fuel + 1, procedure, args => do
    let given ← args.mapM fun arg => do
      match arg with
      | .variable_ name =>
        let r ← get
        return ({ cell := r.valueOf name, array := r.arrayOf name } : Own)
      | other => return { cell := ← evaluate s fuel other, array := "" }
    let r ← get
    let owns := procedure.parameters.zipIdx.map fun (name, place) =>
      let fresh := "\x00" ++ toString (r.arrayCount + place)
      match given[place]? with
      | some own => (name, { own with array := if own.array.isEmpty then fresh else own.array })
      | none => (name, { cell := .unset, array := fresh })
    set { r with
      frames := owns :: r.frames, arrayCount := r.arrayCount + procedure.parameters.length }
    let result ← ExceptT.mk (Except.ok <$> (carryOut s fuel procedure.body).run)
    modify fun after => { after with frames := r.frames }
    match result with
    | .ok () => return .unset
    | .error (.returned value) => return value
    | .error stop => throw stop

/-- Runs what can be called without being written in the script. -/
def callKnown (s : Script) : Nat → String → List Formula → Work Cell
  | 0, _, _ => throw (.fault "no end in sight")
  | fuel + 1, name, args => do
    let chars := fun (place : Nat) => do
      match args[place]? with
      | some arg => return (← evaluate s fuel arg).toChars
      | none => return []
    let number := fun (place : Nat) => do
      match args[place]? with
      | some arg => return (← evaluate s fuel arg).toNumber
      | none => return 0.0
    let replace := fun (isAll : Bool) => do
      match args with
      | pattern :: replacement :: rest =>
        let e ← expressionOf s fuel pattern
        let replacement ← evaluate s fuel replacement
        let target := rest.headD (.field (.constant (.number 0.0)))
        let old ← evaluate s fuel target
        let (text, count) := replaced e isAll replacement.toChars old.toChars
        if count != 0 then give s fuel target (.text text)
        return Cell.ofNat count
      | _ => throw (Stop.fault "syntax error")
    match name with
    | "length" =>
      match args with
      | [] => return .ofNat (← get).record.toChars.length
      | .variable_ array :: _ =>
        let r ← get
        if Table.has (r.arrayOf array) r.arrays then
          return .ofNat (r.elements (r.arrayOf array)).length
        else return .ofNat (r.valueOf array).toChars.length
      | _ => return .ofNat (← chars 0).length
    | "substr" =>
      let text ← chars 0
      let start ← number 1
      let size ← number 2
      return .text (partOf text start (if args.length > 2 then some size else none))
    | "index" =>
      let text ← chars 0
      let part ← chars 1
      let place := (List.range (text.length + 1)).find? fun n => part.isPrefixOf (text.drop n)
      return .ofNat ((place.map (· + 1)).getD 0)
    | "split" =>
      let text ← chars 0
      let r ← get
      let parts ← match args[2]? with
        | none => pure (splitAt (r.value "FS").toChars text)
        | some (Formula.fits e) => pure (if text.isEmpty then [] else partsBetween e text)
        | some other => do
          let separator ← evaluate s fuel other
          pure (splitAt separator.toChars text)
      match args[1]? with
      | some (Formula.variable_ array) =>
        modify fun r => r.withElements (r.arrayOf array) (parts.zipIdx.map fun (part, place) =>
          ((toString (place + 1)).toList, Cell.input part))
      | _ => throw (Stop.fault "syntax error")
      return .ofNat parts.length
    | "sub" => replace false
    | "gsub" => replace true
    | "match" =>
      let text ← chars 0
      let e ← expressionOf s fuel (args[1]?.getD (.constant .unset))
      let found := e.find? { chars := text.toArray } 0
      let (start, size) := match found with
        | some f => (Cell.ofNat (f.first + 1), Cell.ofNat (f.last - f.first))
        | none => (.number 0.0, .number (-1.0))
      modify fun r => (r.assign "RSTART" start).assign "RLENGTH" size
      return start
    | "sprintf" =>
      let form ← chars 0
      let values ← (args.drop 1).mapM fun arg => evaluate s fuel arg
      return .text (formed (form.length + 1) form values)
    | "tolower" => return .text ((← chars 0).map Char.toLower)
    | "toupper" => return .text ((← chars 0).map Char.toUpper)
    | "int" =>
      let x ← number 0
      return .number (if x < 0.0 then x.ceil else x.floor)
    | "sqrt" => return .number (← number 0).sqrt
    | "exp" => return .number (← number 0).exp
    | "log" => return .number (← number 0).log
    | "sin" => return .number (← number 0).sin
    | "cos" => return .number (← number 0).cos
    | "atan2" =>
      let y ← number 0
      return .number (Float.atan2 y (← number 1))
    | _ => return .number 0.0

/-- Carries out statements. -/
def carryOut (s : Script) : Nat → List Statement → Work Unit
  | 0, _ => throw (.fault "no end in sight")
  | fuel + 1, statements => statements.forM fun st => carryOutOne s fuel st

/-- Carries out a statement. -/
def carryOutOne (s : Script) : Nat → Statement → Work Unit
  | 0, _ => throw (.fault "no end in sight")
  | fuel + 1, statement => do
    let holds := fun (test : Formula) => do return (← evaluate s fuel test).holds
    let outletOf := fun (outlet : Outlet) => do
      match outlet with
      | .output => return none
      | .file path appends => return some ((← evaluate s fuel path).toChars, appends)
    match statement with
    | .print values outlet =>
      let texts ← values.mapM fun value => do return (← evaluate s fuel value).toChars
      let outlet ← outletOf outlet
      modify fun r =>
        let body := if values.isEmpty then r.record.toChars
          else (r.value "OFS").toChars.intercalate texts
        r.print outlet (body ++ (r.value "ORS").toChars)
    | .printInForm values outlet =>
      let cells ← values.mapM fun value => evaluate s fuel value
      let outlet ← outletOf outlet
      match cells with
      | form :: args =>
        let form := form.toChars
        modify (·.print outlet (formed (form.length + 1) form args))
      | [] => throw (.fault "syntax error")
    | .evaluate formula => let _ ← evaluate s fuel formula
    | .block inner => carryOut s fuel inner
    | .branch test yes no =>
      if ← holds test then carryOutOne s fuel yes
      else if let some no := no then carryOutOne s fuel no
    | .loop test body =>
      turns (do
        if ← holds test then return !(← isLeft (carryOutOne s fuel body)) else return false)
        turnLimit
    | .loopAfter test body =>
      turns (do
        if ← isLeft (carryOutOne s fuel body) then return false else holds test) turnLimit
    | .count first test step body =>
      if let some first := first then carryOutOne s fuel first
      turns (do
        let goesOn ← match test with
          | some test => holds test
          | none => pure true
        if !goesOn then return false
        if ← isLeft (carryOutOne s fuel body) then return false
        if let some step := step then carryOutOne s fuel step
        return true) turnLimit
    | .loopOver name array body =>
      let r ← get
      let keys := (r.elements (r.arrayOf array)).map (·.1)
      let _ ← keys.foldlM (fun isOver key => do
        if isOver then return true
        modify (·.assignTo name (.input key))
        isLeft (carryOutOne s fuel body)) false
    | .nextRecord => throw .nextRecord
    | .exit status =>
      if let some status := status then
        let value ← evaluate s fuel status
        modify fun r => { r with status := (value.toInt % 256).toNat }
      throw .exit
    | .delete name keys =>
      match keys with
      | none => modify fun r => r.withElements (r.arrayOf name) []
      | some keys =>
        let key ← keyOf s fuel keys
        modify fun r =>
          let array := r.arrayOf name
          r.withElements array (Table.erase key (r.elements array))
    | .leave => throw .left
    | .goOn => throw .goneOn
    | .giveBack value =>
      match value with
      | some value => throw (.returned (← evaluate s fuel value))
      | none => throw (.returned .unset)

end

/-- How deep steps may be inside of each other. -/
def depthLimit : Nat :=
  2000

/-- Carries out the rules of a kind. -/
def carryOutRules (s : Script) (isKind : Condition → Bool) : Work Unit :=
  (s.rules.filter fun rule => isKind rule.condition).forM fun rule =>
    carryOut s depthLimit rule.body

/-- Carries out the rules for the record at work. -/
def carryOutRecord (s : Script) : Work Unit :=
  s.rules.zipIdx.forM fun (rule, place) => do
    let holds := fun (test : Formula) => do return (← evaluate s depthLimit test).holds
    let applies ← match rule.condition with
      | .first => pure false
      | .last => pure false
      | .always => pure true
      | .when test => holds test
      | .between begins ends => do
        let isBegun ← if (← get).begun.contains place then pure true else holds begins
        if isBegun then
          let isOver ← holds ends
          modify fun r =>
            let others := r.begun.filter (· != place)
            { r with begun := if isOver then others else place :: others }
        pure isBegun
    if applies then carryOut s depthLimit rule.body

/-- Goes through the records that are left. -/
def carryOutRecords (s : Script) : Nat → Work Unit
  | 0 => pure ()
  | n + 1 => do
    let r ← get
    match r.left with
    | [] => pure ()
    | record :: left =>
      set ({ r with left }.begin_ record)
      match ← ExceptT.mk (Except.ok <$> (carryOutRecord s).run) with
      | .ok () => pure ()
      | .error .nextRecord => pure ()
      | .error stop => throw stop
      carryOutRecords s n

/-- Gives a variable the value of an argument of the form of an assignment. -/
def assignArgument? (arg : String) : Option (String × Cell) :=
  let name := arg.toList.takeWhile (· != '=')
  if name.length < arg.length && isName name then
    some (String.ofList name, .input (unescaped (charsOfText
      (String.ofList (arg.toList.drop (name.length + 1))))))
  else none

/-- Runs a script: first the rules for the beginning, then those for the records of all that is
named, and at last those for the end.  `bytes` gives what is named. -/
def carryOutAll (s : Script) (operands : List String)
    (bytes : String → Except Disk.Obstruction (List UInt8)) : Work Unit := do
  let isFirst := fun (c : Condition) => match c with
    | .first => true
    | _ => false
  let isLast := fun (c : Condition) => match c with
    | .last => true
    | _ => false
  let needsRecords := s.rules.any fun rule => !isFirst rule.condition
  let body : Work Unit := do
    carryOutRules s isFirst
    if needsRecords then
      let files := operands.filter fun arg => (assignArgument? arg).isNone
      let operands := if files.isEmpty then operands ++ ["-"] else operands
      operands.forM fun arg => do
        match assignArgument? arg with
        | some (name, value) => modify (·.assign name value)
        | none =>
          match bytes arg with
          | .error why => throw (.fault ("cannot open " ++ arg ++ " (" ++ why.message ++ ")"))
          | .ok content =>
            modify fun r =>
              let named := if arg == "-" then .unset else .text (charsOfText arg)
              { (r.assign "FILENAME" named).assign "FNR" (.number 0.0) with
                left := recordsOf (r.value "RS").toChars (charsOf content) }
            carryOutRecords s (content.length + 1)
  match ← ExceptT.mk (Except.ok <$> body.run) with
  | .error (.fault what) => throw (.fault what)
  | .error .exit => carryOutRules s isLast
  | _ => carryOutRules s isLast

/-- The run that a script begins with. -/
def firstRun (given : List (String × Cell)) : Run :=
  let bindings : Table String Cell :=
    [("FS", .text [' ']), ("OFS", .text [' ']), ("ORS", .text ['\n']), ("RS", .text ['\n']),
     ("SUBSEP", .text ['\x1c']), ("NR", .number 0.0), ("FNR", .number 0.0)]
  given.foldl (fun r (name, value) => r.assign name value) { bindings }

end ProjectCheck.Shell.Record

namespace ProjectCheck.Shell

/-- Passes on what a script for records has printed. -/
def passOnPrinted (printed : List (Option (List Char × Bool) × List Char)) (m : Machine) : Machine :=
  (printed.foldl (fun (m, known) (outlet, s) =>
    let bytes := Record.bytesOfChars s
    match outlet with
    | none => (m.print bytes, known)
    | some (path, appends) =>
      let path := Record.textOfChars path
      if path == "/dev/stderr" then (m.write 2 bytes, known)
      else if path == "/dev/stdout" || path == "-" then (m.print bytes, known)
      else
        let isKept := appends || known.contains path
        match m.openToWrite 9 path (if isKept then .append else .overwrite) with
        | .error _ => (m, known)
        | .ok opened => ({ opened.write 9 bytes with streams := m.streams }, path :: known))
    (m, ([] : List String))).1

/-- Runs a script for records on the files that are named, or on the input. -/
def awk : Tool := fun args m =>
  let form : OptionForm := { valued := ['F', 'v', 'f'] }
  let (options, operands) := splitFromCommand form args
  let o := Options.read form options
  let scriptFiles := o.values 'f'
  let texts := scriptFiles.map fun name => (bytesNamed m name).toOption.getD []
  let (text, operands) := match scriptFiles, operands with
    | [], [] => (none, [])
    | [], script :: rest => (some (Record.charsOfText script), rest)
    | _, operands => (some (Record.charsOf texts.flatten), operands)
  match text with
  | none => (2, m.complain "usage: awk [-F fs][-v var=value][prog | -f progfile][file ...]")
  | some text =>
    match Record.read text with
    | .error what => (2, m.complain ("awk: line 1: " ++ what))
    | .ok script =>
      let given := (o.values 'v').filterMap Record.assignArgument? ++
        (o.value? 'F').toList.map fun text => ("FS", Record.Cell.text
          (Record.unescaped (Record.charsOfText text)))
      let (result, run) :=
        ((Record.carryOutAll script operands (bytesNamed m)).run).run (Record.firstRun given)
      let after := passOnPrinted run.printed.reverse
        (if operands.isEmpty || operands.contains "-" then m.withoutInput else m)
      match result with
      | .error (.fault what) => (2, after.complain ("awk: " ++ what))
      | _ => (run.status, after)

end ProjectCheck.Shell
