import ProjectCheck.Number.Reading
import ProjectCheck.Shell.Expression
import ProjectCheck.Shell.Reading

/-!
# Tools for numbers

Tools that print the factors of numbers and work out what arguments say, and times to wait.
-/

namespace ProjectCheck.Shell

open ProjectCheck.Number ProjectCheck.Text

/-! ## Factors -/

/-- The prime factors of a number from a divisor on. -/
def primeFactors : Nat → (divisor n : Nat) → List Nat
  | 0, _, n => if n ≤ 1 then [] else [n]
  | fuel + 1, d, n =>
    if n ≤ 1 then []
    else if n < d * d then [n]
    else if n % d = 0 then d :: primeFactors fuel d (n / d)
    else primeFactors fuel (d + 1) n

/-- How many divisors are tried. -/
def divisorLimit : Nat :=
  1000000

/-- Prints the prime factors of numbers. -/
def factor : Tool := fun args m =>
  let texts := if args.isEmpty then
      ((splitOn [' '] ((decodeUtf8 m.input).map fun c => if c.isWhitespace then ' ' else c)).map
        String.ofList).filter (!·.isEmpty)
    else args
  forEach (fun text m =>
    match text.toNat? with
    | some n =>
      (0, m.say (toString n ++ ":" ++
        String.join ((primeFactors divisorLimit 2 n).map fun p => " " ++ toString p) ++ "\n"))
    | none =>
      (1, m.complain ("factor: ‘" ++ text ++ "’ is not a valid positive integer"))) texts
    (if args.isEmpty then m.withoutInput else m)

/-! ## Working out arguments -/

/-- Why arguments have no value. -/
inductive ReckoningFault where
  | missing (before : Option String)
  | unexpected (text : String)
  | noInteger
  | byZero
  | badExpression (fault : ExpressionFault)
deriving Repr, DecidableEq

namespace Reckoning

/-- What is said of a fault. -/
def message : ReckoningFault → String
  | .missing none => "missing operand\nTry 'expr --help' for more information."
  | .missing (some text) => "syntax error: missing argument after ‘" ++ text ++ "’"
  | .unexpected text => "syntax error: unexpected argument ‘" ++ text ++ "’"
  | .noInteger => "non-integer argument"
  | .byZero => "division by zero"
  | .badExpression fault => fault.message

/-- The integer that a text is. -/
def integer? (text : String) : Option Int :=
  let (isNegative, digits) := match text.toList with
    | '-' :: rest => (true, rest)
    | rest => (false, rest)
  if digits.isEmpty || !digits.all Char.isDigit then none
  else
    let n : Int := (asciiValue digits : Nat)
    some (if isNegative then -n else n)

/-- Whether a value counts as none. -/
def isNone (text : String) : Bool :=
  text.isEmpty || integer? text == some 0

/-- What of a text fits an expression from its beginning: the first group, or how much. -/
def fit (text pattern : String) : Except ReckoningFault String :=
  match Expression.read .basic pattern.toList with
  | .error fault => .error (.badExpression fault)
  | .ok e =>
    let s : Expression.Subject := { chars := text.toList.toArray }
    let hasGroup := occursIn "\\(".toList pattern.toList
    match Expression.longestAt? s e 0 with
    | none => .ok (if hasGroup then "" else "0")
    | some p =>
      .ok (if hasGroup then
          match p.groups.lookup 1 with
          | some (start, end_) => String.ofList ((text.toList.drop start).take (end_ - start))
          | none => ""
        else toString p.place)

/-- The value of an operator between two values. -/
def applied (op a b : String) : Except ReckoningFault String :=
  let numbers := fun (use : Int → Int → Except ReckoningFault Int) =>
    match integer? a, integer? b with
    | some a, some b => (use a b).map toString
    | _, _ => .error .noInteger
  let compare := fun (use : Ordering → Bool) =>
    let order := match integer? a, integer? b with
      | some a, some b => Ord.compare a b
      | _, _ => Ord.compare a b
    .ok (if use order then "1" else "0")
  match op with
  | "|" => .ok (if !isNone a then a else if !isNone b then b else "0")
  | "&" => .ok (if isNone a || isNone b then "0" else a)
  | "<" => compare (·.isLT)
  | "<=" => compare (·.isLE)
  | ">" => compare (·.isGT)
  | ">=" => compare (·.isGE)
  | "!=" => compare (·.isNe)
  | "=" => compare (·.isEq)
  | "==" => compare (·.isEq)
  | "+" => numbers fun a b => .ok (a + b)
  | "-" => numbers fun a b => .ok (a - b)
  | "*" => numbers fun a b => .ok (a * b)
  | "/" => numbers fun a b => if b = 0 then .error .byZero else .ok (a.tdiv b)
  | "%" => numbers fun a b => if b = 0 then .error .byZero else .ok (a.tmod b)
  | _ => fit a b

/-- How tightly an operator binds. -/
def rank? (op : String) : Option Nat :=
  if op == "|" then some 0
  else if op == "&" then some 1
  else if ["<", "<=", ">", ">=", "=", "==", "!="].contains op then some 2
  else if op == "+" || op == "-" then some 3
  else if op == "*" || op == "/" || op == "%" then some 4
  else if op == ":" then some 5
  else none

/-- What a reader takes off some arguments: a value and the arguments behind it, `before` being the
argument before them. -/
abbrev Taken :=
  Except ReckoningFault (String × String × List String)

mutual

/-- Takes what operators of a rank and tighter ones join. -/
def takeRanked : Nat → (rank : Nat) → (before : Option String) → List String → Taken
  | 0, _, before, _ => .error (.missing before)
  | fuel + 1, rank, before, args => do
    if rank ≥ 6 then takeSingle fuel before args
    else
      let (value, before, rest) ← takeRanked fuel (rank + 1) before args
      takeJoined fuel rank value before rest

/-- Takes what operators of a rank join to a value. -/
def takeJoined : Nat → (rank : Nat) → (value before : String) → List String → Taken
  | 0, _, _, before, _ => .error (.missing (some before))
  | fuel + 1, rank, value, before, args => do
    match args with
    | op :: rest =>
      if rank? op = some rank then
        let (second, before, rest) ← takeRanked fuel (rank + 1) (some op) rest
        takeJoined fuel rank (← applied op value second) before rest
      else return (value, before, args)
    | [] => return (value, before, [])

/-- Takes a single value. -/
def takeSingle : Nat → (before : Option String) → List String → Taken
  | 0, before, _ => .error (.missing before)
  | fuel + 1, before, args => do
    let next := fun (before : String) (args : List String) => takeSingle fuel (some before) args
    match args with
    | [] => throw (.missing before)
    | "+" :: text :: rest => return (text, text, rest)
    | "(" :: rest =>
      let (value, before, rest) ← takeRanked fuel 0 (some "(") rest
      match rest with
      | ")" :: rest => return (value, ")", rest)
      | text :: _ => throw (.unexpected text)
      | [] => throw (.missing (some before))
    | "length" :: rest =>
      let (value, before, rest) ← next "length" rest
      return (toString value.length, before, rest)
    | "match" :: rest =>
      let (text, before, rest) ← next "match" rest
      let (pattern, before, rest) ← next before rest
      return (← fit text pattern, before, rest)
    | "index" :: rest =>
      let (text, before, rest) ← next "index" rest
      let (signs, before, rest) ← next before rest
      let place := text.toList.findIdx signs.toList.contains
      return (toString (if place < text.length then place + 1 else 0), before, rest)
    | "substr" :: rest =>
      let (text, before, rest) ← next "substr" rest
      let (start, before, rest) ← next before rest
      let (size, before, rest) ← next before rest
      match integer? start, integer? size with
      | some start, some size =>
        let part := if start ≤ 0 then [] else (text.toList.drop (start.toNat - 1)).take size.toNat
        return (String.ofList part, before, rest)
      | _, _ => return ("", before, rest)
    | text :: rest =>
      if text == ")" then throw (.unexpected text) else return (text, text, rest)

end

end Reckoning

/-- Prints the value of what its arguments say. -/
def expr : Tool := fun args m =>
  let refuse := fun (fault : ReckoningFault) =>
    (2, m.complain ("expr: " ++ Reckoning.message fault))
  match Reckoning.takeRanked (16 * args.length + 16) 0 none args with
  | .error fault => refuse fault
  | .ok (value, _, []) => (if Reckoning.isNone value then 1 else 0, m.say (value ++ "\n"))
  | .ok (_, _, text :: _) => refuse (.unexpected text)

/-! ## Waiting -/

end ProjectCheck.Shell
