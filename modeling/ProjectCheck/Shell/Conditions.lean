import ProjectCheck.Shell.Reading

/-!
# Conditions

The conditions that are written as the arguments of a command: about texts, numbers and what stands
on the disk, turned round and joined.

What an argument means depends on the arguments around it.  A text that is the sign of a condition is
taken for what it says where a condition may begin and something stands behind it; with three
arguments of which the middle one is a comparison, the first is never taken for a sign.  All parts of
a condition are looked at, so a number that is none is refused wherever it stands.
-/

namespace ProjectCheck.Shell

open ProjectCheck.Disk

/-- What an argument of a condition may say. -/
inductive ConditionSign where
  /-- A condition on one argument. -/
  | about (letter : Char)
  /-- A condition on the arguments at both sides. -/
  | between (name : String)
  | turned
  | both
  | either
  | opening
  | closing
deriving Repr, DecidableEq

/-- What an argument is at its place. -/
inductive ConditionPart where
  | nothing
  | operand
  | sign (s : ConditionSign)
deriving Repr, DecidableEq

namespace Condition

/-- The letters of the conditions on one argument. -/
def letters : List Char :=
  "rwxefdcbpugkstznhOGLS".toList

/-- The names of comparisons. -/
def comparisons : List String :=
  ["=", "!=", "<", ">", "-eq", "-ne", "-gt", "-ge", "-lt", "-le", "-nt", "-ot", "-ef"]

/-- What a text says as part of a condition. -/
def sign? (dialect : Dialect) (text : String) : Option ConditionSign :=
  if comparisons.contains text || (text == "==" && dialect = .large) then some (.between text)
  else
    match text.toList with
    | ['-', 'a'] => some .both
    | ['-', 'o'] => some .either
    | ['-', c] => if letters.contains c then some (.about c) else none
    | ['!'] => some .turned
    | ['('] => some .opening
    | [')'] => some .closing
    | _ => none

/-- Whether a text is the name of a comparison. -/
def isComparison (dialect : Dialect) (text : String) : Bool :=
  match sign? dialect text with
  | some (.between _) => true
  | _ => false

/-- What the first of some arguments is. -/
def partAt (dialect : Dialect) : List String → ConditionPart
  | [] => .nothing
  | first :: rest =>
    match sign? dialect first with
    | none => .operand
    | some (.about c) =>
      match rest with
      | [] => .operand
      | next :: _ :: _ => if isComparison dialect next then .operand else .sign (.about c)
      | [_] => .sign (.about c)
    | some .opening => if rest.isEmpty then .operand else .sign .opening
    | some s => .sign s

/-! ## Single conditions -/

/-- The number that a text is, blanks around it aside. -/
def number (text : String) : Except String Int :=
  let isBlank := fun (c : Char) => " \t\n\x0b\x0c\r".toList.contains c
  let body := text.toList.dropWhile isBlank
  let (isNegative, digits) := match body with
    | '-' :: rest => (true, rest)
    | '+' :: rest => (false, rest)
    | rest => (false, rest)
  let size := digits.takeWhile Char.isDigit
  let n : Int := ((String.ofList size).toNat?.getD 0 : Nat)
  let n := if isNegative then -n else n
  let isRefused := size.isEmpty || !(digits.drop size.length).all isBlank ||
    n > 9223372036854775807 || n < -9223372036854775808
  if isRefused then .error ("Illegal number: " ++ text) else .ok n

/-- Whether a condition on one argument holds. -/
def holdsAbout (m : Machine) (letter : Char) (text : String) : Except String Bool :=
  let isNull := text == nullDevice
  let node := m.reach? text
  match letter with
  | 'z' => .ok text.isEmpty
  | 'n' => .ok !text.isEmpty
  | 't' => (number text).map fun _ => false
  | 'f' => .ok (node.any (·.content?.isSome))
  | 'd' => .ok (node.any Node.isDirectory)
  | 's' => .ok (node.any fun node => node.isDirectory || node.content?.any (!·.isEmpty))
  | 'x' => .ok (node.any fun node => node.isDirectory || m.isProgram text)
  | 'h' => .ok ((standing? m text).any (·.target?.isSome))
  | 'L' => .ok ((standing? m text).any (·.target?.isSome))
  | 'c' => .ok isNull
  | _ => .ok ("rweOG".toList.contains letter && (isNull || node.isSome))

/-- Whether a comparison holds. -/
def holdsBetween (m : Machine) (name a b : String) : Except String Bool := do
  let numbers := fun (holds : Int → Int → Bool) => do return holds (← number a) (← number b)
  match name with
  | "!=" => return a != b
  | "<" => return decide (a < b)
  | ">" => return decide (b < a)
  | "-eq" => numbers (· == ·)
  | "-ne" => numbers (· != ·)
  | "-gt" => numbers (fun a b => decide (a > b))
  | "-ge" => numbers (fun a b => decide (a ≥ b))
  | "-lt" => numbers (fun a b => decide (a < b))
  | "-le" => numbers (fun a b => decide (a ≤ b))
  | "-ef" =>
    return (m.reach? a).isSome && (m.reach? b).isSome &&
      canonical? m.disk m.directory a == canonical? m.disk m.directory b
  | "-nt" => return false
  | "-ot" => return false
  | _ => return a == b

/-! ## Whole conditions -/

mutual

/-- Whether one of some conditions holds, with the arguments from the last one on that belongs to
them. -/
def holdsEither (m : Machine) : Nat → ConditionPart → List String → Except String (Bool × List String)
  | 0, _, args => .ok (false, args)
  | fuel + 1, part, args => do
    let (first, args) ← holdsBoth m fuel part args
    match partAt m.dialect (args.drop 1) with
    | .sign .either =>
      let (second, args) ← holdsEither m fuel (partAt m.dialect (args.drop 2)) (args.drop 2)
      return (first || second, args)
    | _ => return (first, args)

/-- Whether all of some conditions hold. -/
def holdsBoth (m : Machine) : Nat → ConditionPart → List String → Except String (Bool × List String)
  | 0, _, args => .ok (false, args)
  | fuel + 1, part, args => do
    let (first, args) ← holdsTurned m fuel part args
    match partAt m.dialect (args.drop 1) with
    | .sign .both =>
      let (second, args) ← holdsBoth m fuel (partAt m.dialect (args.drop 2)) (args.drop 2)
      return (first && second, args)
    | _ => return (first, args)

/-- Whether a condition holds that may be turned round. -/
def holdsTurned (m : Machine) : Nat → ConditionPart → List String →
    Except String (Bool × List String)
  | 0, _, args => .ok (false, args)
  | fuel + 1, part, args =>
    if part = .sign .turned then do
      let next := partAt m.dialect (args.drop 1)
      let (b, args) ← holdsTurned m fuel next (if next = .nothing then args else args.drop 1)
      return (!b, args)
    else holdsSingle m fuel part args

/-- Whether a single condition or one in parentheses holds. -/
def holdsSingle (m : Machine) : Nat → ConditionPart → List String →
    Except String (Bool × List String)
  | 0, _, args => .ok (false, args)
  | fuel + 1, part, args =>
    match part, args with
    | .nothing, _ => .ok (false, args)
    | .sign .opening, _ => do
      let args := args.drop 1
      let next := partAt m.dialect args
      if next = .sign .closing then return (false, args)
      else
        let (b, args) ← holdsEither m fuel next args
        if partAt m.dialect (args.drop 1) = .sign .closing then return (b, args.drop 1)
        else throw "closing paren expected"
    | .sign (.about c), sign :: rest =>
      match rest with
      | [] => .error (sign ++ ": argument expected")
      | text :: _ => (holdsAbout m c text).map (·, rest)
    | _, first :: rest =>
      match partAt m.dialect rest, rest with
      | .sign (.between name), _ :: second :: others =>
        (holdsBetween m name first second).map (·, second :: others)
      | .sign (.between name), _ => .error (name ++ ": argument expected")
      | _, _ => .ok (!first.isEmpty, first :: rest)
    | _, [] => .ok (false, [])

end

/-- Whether arguments that begin with a certain part say something that holds. -/
def holdsFrom (m : Machine) (part : ConditionPart) (args : List String) : Except String Bool := do
  let (b, rest) ← holdsEither m (8 * args.length + 8) part args
  match rest with
  | extra :: _ :: _ => throw (extra ++ ": unexpected operator")
  | _ => return b

/-- Whether arguments say something that holds. -/
def holds (m : Machine) (args : List String) : Except String Bool :=
  let plainly := fun (args : List String) => holdsFrom m (partAt m.dialect args) args
  let isEnclosed := args.head? == some "(" && args.getLast? == some ")"
  match args with
  | [] => .ok false
  | [first, middle, last] =>
    if isComparison m.dialect middle then holdsFrom m .operand args
    else if isEnclosed then plainly [middle]
    else if first == "!" then (plainly [middle, last]).map (!·)
    else plainly args
  | first :: a :: b :: [c] =>
    if isEnclosed then plainly [a, b]
    else if first == "!" then
      if isComparison m.dialect b then (holdsFrom m .operand [a, b, c]).map (!·)
      else if a == "(" && c == ")" then (plainly [b]).map (!·)
      else if a == "!" then plainly [b, c]
      else (plainly [a, b, c]).map (!·)
    else plainly args
  | args => plainly args

end Condition

/-- Answers whether a condition holds. -/
def test : Tool := fun args m =>
  match Condition.holds m args with
  | .ok b => (if b then 0 else 1, m)
  | .error what => (2, m.complainAsShell what)

/-- Answers whether a condition between brackets holds. -/
def testInBrackets : Tool := fun args m =>
  if (args.getLast?.bind (·.toList.head?)) == some ']' then test args.dropLast m
  else (2, m.complainAsShell "missing ]")

end ProjectCheck.Shell
