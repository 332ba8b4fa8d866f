import ProjectCheck.Shell.Machine
import ProjectCheck.Text.Quoted

/-!
# Calculations

What stands between two pairs of parentheses behind a dollar sign: integers of 64 bits, which wrap
around, the variables of the shell, and the operators of C, assignments included.  A variable without
a value counts as zero.

`Calculation.read` takes a text apart by the ranks of the operators, and `Calculation.value` carries
it out from left to right; of a choice or a connective only the part that counts is carried out.
-/

namespace ProjectCheck.Shell

/-- A calculation. -/
inductive Calculation where
  | number (n : Int)
  | variable_ (name : String)
  | unary (op : Char) (inner : Calculation)
  | binary (op : String) (first second : Calculation)
  | choose (test first second : Calculation)
  /-- Gives a variable a value, perhaps made of its own by an operator. -/
  | assign (name : String) (op : Option String) (inner : Calculation)
deriving Repr, DecidableEq

/-- A token of a calculation. -/
inductive CalculationToken where
  | number (n : Int)
  | name (s : String)
  | operator (op : String)
  | unknown
deriving Repr, DecidableEq

/-- What is wrong with a calculation. -/
inductive CalculationFault where
  /-- Something else should stand there. -/
  | expecting (what : String)
  | divisionByZero
  | notNumber (text : String)
  | readOnly (name : String)
deriving Repr, DecidableEq

namespace Calculation

/-! ## Numbers -/

/-- The integer of 64 bits that an integer wraps around to. -/
def wrapped (n : Int) : Int :=
  n.bmod (Nat.pow 2 64)

/-- The greatest integer of 64 bits. -/
def greatest : Int :=
  Nat.pow 2 63 - 1

/-- The base of a number, and how many characters show it. -/
def baseOf : List Char → Nat × Nat
  | '0' :: x :: d :: _ =>
    if (x == 'x' || x == 'X') && (Text.hexValue? d).isSome then (16, 2) else (8, 0)
  | '0' :: _ => (8, 0)
  | _ => (10, 0)

/-- The value of a digit in a base. -/
def digit? (base : Nat) (c : Char) : Option Nat :=
  (Text.hexValue? c).filter (· < base)

/-- The number at the front of a text and how many characters it takes; too great a number is the
greatest. -/
def takeNumber (s : List Char) : Int × Nat :=
  let (base, skipped) := baseOf s
  let digits := (s.drop skipped).takeWhile fun c => (digit? base c).isSome
  let n := digits.foldl (fun n c => base * n + (digit? base c).getD 0) 0
  (min (n : Int) greatest, skipped + digits.length)

/-- The number that the value of a variable is. -/
def numberOf (text : String) : Except CalculationFault Int :=
  let isGap := fun (c : Char) => c == ' ' || ('\t' ≤ c && c ≤ '\r')
  let s := text.toList.dropWhile isGap
  let isNegative := s.head? == some '-'
  let s := if isNegative || s.head? == some '+' then s.drop 1 else s
  let (n, taken) := takeNumber s
  if ((s.drop taken).dropWhile isGap).isEmpty then .ok (if isNegative then -n else n)
  else .error (.notNumber text)

/-! ## Tokens -/

/-- The operators, each before those that it begins with. -/
def operators : List String :=
  ["<<=", ">>=", "&&", "||", "<<", ">>", "<=", ">=", "==", "!=", "+=", "-=", "*=", "/=", "%=", "&=",
   "|=", "^=", "+", "-", "*", "/", "%", "<", ">", "=", "&", "|", "^", "!", "~", "?", ":", "(", ")"]

/-- The token at the front of a text, and how many characters it takes. -/
def takeToken (c : Char) (rest : List Char) : CalculationToken × Nat :=
  if c.isDigit then
    let (n, taken) := takeNumber (c :: rest)
    (.number n, taken)
  else if isNameChar c then
    let name := (c :: rest).takeWhile isNameChar
    (.name (String.ofList name), name.length)
  else
    match operators.find? fun op => op.toList.isPrefixOf (c :: rest) with
    | some op => (.operator op, op.length)
    | none => (.unknown, 1)

/-- The tokens of a text. -/
def tokensOf (s : List Char) : List CalculationToken :=
  match s with
  | [] => []
  | c :: rest =>
    if c == ' ' || c == '\t' || c == '\n' then tokensOf rest
    else
      let (token, n) := takeToken c rest
      token :: tokensOf (rest.drop (n - 1))
termination_by s.length

/-! ## Reading -/

/-- The ranks of the operators between two parts; those of a higher rank bind more closely. -/
def rank? : String → Option Nat
  | "||" => some 1
  | "&&" => some 2
  | "|" => some 3
  | "^" => some 4
  | "&" => some 5
  | "==" => some 6
  | "!=" => some 6
  | "<" => some 7
  | "<=" => some 7
  | ">" => some 7
  | ">=" => some 7
  | "<<" => some 8
  | ">>" => some 8
  | "+" => some 9
  | "-" => some 9
  | "*" => some 10
  | "/" => some 10
  | "%" => some 10
  | _ => none

/-- The operator in an assignment; nothing in front of the sign means the value itself. -/
def assigning? : String → Option (Option String)
  | "=" => some none
  | "<<=" => some (some "<<")
  | ">>=" => some (some ">>")
  | "+=" => some (some "+")
  | "-=" => some (some "-")
  | "*=" => some (some "*")
  | "/=" => some (some "/")
  | "%=" => some (some "%")
  | "&=" => some (some "&")
  | "|=" => some (some "|")
  | "^=" => some (some "^")
  | _ => none

/-- What is read, and the tokens behind it. -/
abbrev Taken :=
  Except CalculationFault (Calculation × List CalculationToken)

mutual

/-- Takes an assignment, or else a choice. -/
def takeAssignment : Nat → List CalculationToken → Taken
  | 0, _ => .error (.expecting "primary")
  | fuel + 1, tokens =>
    match tokens with
    | .name name :: .operator op :: rest =>
      match assigning? op with
      | some inner => do
        let (value, rest) ← takeAssignment fuel rest
        return (.assign name inner value, rest)
      | none => takeChoice fuel tokens
    | _ => takeChoice fuel tokens

/-- Takes a choice between two parts, or else what may be its test. -/
def takeChoice : Nat → List CalculationToken → Taken
  | 0, _ => .error (.expecting "primary")
  | fuel + 1, tokens => do
    let (test, rest) ← takeRanked fuel 1 tokens
    match rest with
    | .operator "?" :: rest =>
      let (first, rest) ← takeAssignment fuel rest
      match rest with
      | .operator ":" :: rest =>
        let (second, rest) ← takeChoice fuel rest
        return (.choose test first second, rest)
      | _ => .error (.expecting "':'")
    | _ => return (test, rest)

/-- Takes what operators of a rank or a higher one join. -/
def takeRanked : Nat → (rank : Nat) → List CalculationToken → Taken
  | 0, _, _ => .error (.expecting "primary")
  | fuel + 1, rank, tokens => do
    let (first, rest) ← takePrimary fuel tokens
    takeJoined fuel rank first rest

/-- Takes what operators join to something. -/
def takeJoined : Nat → (rank : Nat) → Calculation → List CalculationToken → Taken
  | 0, _, _, _ => .error (.expecting "primary")
  | fuel + 1, rank, first, tokens =>
    match tokens with
    | .operator op :: rest =>
      match (rank? op).filter (rank ≤ ·) with
      | some own => do
        let (second, rest) ← takeRanked fuel (own + 1) rest
        takeJoined fuel rank (.binary op first second) rest
      | none => .ok (first, tokens)
    | _ => .ok (first, tokens)

/-- Takes a number, a variable, something in parentheses, or one of them behind a sign. -/
def takePrimary : Nat → List CalculationToken → Taken
  | 0, _ => .error (.expecting "primary")
  | fuel + 1, tokens =>
    match tokens with
    | .number n :: rest => .ok (.number n, rest)
    | .name name :: rest => .ok (.variable_ name, rest)
    | .operator "(" :: rest => do
      let (inner, rest) ← takeAssignment fuel rest
      match rest with
      | .operator ")" :: rest => return (inner, rest)
      | _ => .error (.expecting "')'")
    | .operator op :: rest =>
      match op.toList with
      | [sign] =>
        if "+-!~".toList.contains sign then do
          let (inner, rest) ← takePrimary fuel rest
          return (.unary sign inner, rest)
        else .error (.expecting "primary")
      | _ => .error (.expecting "primary")
    | _ => .error (.expecting "primary")

end

/-- The calculation that a text is. -/
def read (s : List Char) : Except CalculationFault Calculation := do
  let tokens := tokensOf s
  match ← takeAssignment (8 * tokens.length + 8) tokens with
  | (calculation, []) => return calculation
  | _ => .error (.expecting "EOF")

/-! ## Carrying out -/

/-- One for yes and zero for no. -/
def ofBool (b : Bool) : Int :=
  if b then 1 else 0

/-- The bits of an integer, as a number without a sign. -/
def bitsOf (n : Int) : Nat :=
  (n % (Nat.pow 2 64 : Nat)).toNat

/-- The value of an operator between two integers. -/
def applied (op : String) (a b : Int) : Except CalculationFault Int :=
  match op with
  | "+" => .ok (wrapped (a + b))
  | "-" => .ok (wrapped (a - b))
  | "*" => .ok (wrapped (a * b))
  | "/" => if b == 0 then .error .divisionByZero else .ok (wrapped (a.tdiv b))
  | "%" => if b == 0 then .error .divisionByZero else .ok (a.tmod b)
  | "<<" => .ok (wrapped (a * Nat.pow 2 (bitsOf b % 64)))
  | ">>" => .ok (a.fdiv (Nat.pow 2 (bitsOf b % 64)))
  | "&" => .ok (wrapped (bitsOf a &&& bitsOf b : Nat))
  | "|" => .ok (wrapped (bitsOf a ||| bitsOf b : Nat))
  | "^" => .ok (wrapped (bitsOf a ^^^ bitsOf b : Nat))
  | "==" => .ok (ofBool (a == b))
  | "!=" => .ok (ofBool (a != b))
  | "<" => .ok (ofBool (a < b))
  | "<=" => .ok (ofBool (a ≤ b))
  | ">" => .ok (ofBool (a > b))
  | _ => .ok (ofBool (a ≥ b))

/-- The value of a sign in front of an integer. -/
def signed (op : Char) (n : Int) : Int :=
  match op with
  | '-' => wrapped (-n)
  | '!' => ofBool (n == 0)
  | '~' => -n - 1
  | _ => n

/-- What a calculation gives on a machine, and the machine after it. -/
abbrev Result :=
  StateT Machine (Except CalculationFault) Int

/-- The value of a calculation. -/
def value : Calculation → Result
  | number n => return n
  | variable_ name => do numberOf ((← get).value name)
  | unary op inner => do return signed op (← inner.value)
  | binary "&&" first second => do
    if (← first.value) == 0 then return 0 else return ofBool ((← second.value) != 0)
  | binary "||" first second => do
    if (← first.value) != 0 then return 1 else return ofBool ((← second.value) != 0)
  | binary op first second => do
    let a ← first.value
    let b ← second.value
    applied op a b
  | choose test first second => do
    if (← test.value) != 0 then first.value else second.value
  | assign name op inner => do
    let n ← inner.value
    let n ← match op with
      | none => pure n
      | some op => do
        let old ← numberOf ((← get).value name)
        applied op old n
    if (← get).isReadOnly name then throw (.readOnly name)
    modify (·.assign name (toString n))
    return n

end Calculation

/-- What a shell says of a calculation that cannot be carried out. -/
def CalculationFault.message (text : String) : CalculationFault → String
  | expecting what => "arithmetic expression: expecting " ++ what ++ ": " ++ named text
  | divisionByZero => "arithmetic expression: division by zero: " ++ named text
  | notNumber value => "Illegal number: " ++ value
  | readOnly name => name ++ ": is read only"

/-- Carries out the calculation that a text is. -/
def calculate (text : String) : Act Int := do
  let m ← get
  match (Calculation.read text.toList).bind fun c => c.value.run m with
  | .ok (n, m) =>
    set m
    return n
  | .error why => Act.fail (why.message text)

end ProjectCheck.Shell
