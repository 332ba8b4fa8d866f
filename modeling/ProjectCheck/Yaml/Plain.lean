import ProjectCheck.Yaml.Place

/-!
# Plain scalars

A plain scalar has no marks around it.  It ends before a colon with a blank behind it and before a
comment, inside a flow collection also before a mark of such a collection, and outside of one where
a line is indented no further than the block around it.  Its lines are folded.
-/

namespace ProjectCheck.Yaml

/-- Whether a character has a meaning inside a flow collection. -/
def isFlowMark (c : Char) : Bool :=
  c == ',' || c == '[' || c == ']' || c == '\x7b' || c == '\x7d'

/-- How many characters of a plain scalar stand at the front. -/
def plainLength (inFlow : Bool) : List Char → Nat
  | [] => 0
  | c :: rest =>
    if endsToken (c :: rest) then 0
    else if c == ':' && (endsToken rest || (inFlow && rest.head?.any isFlowMark)) then 0
    else if inFlow && (isFlowMark c || c == '?') then 0
    else plainLength inFlow rest + 1

/-- The line ends behind the first one, and the place behind them and the blanks among them; nothing
where a marker between documents comes. -/
def takeBreaks? : Nat → Place → Option (List Char × Place)
  | 0, _ => none
  | fuel + 1, p =>
    if p.column == 0 && isDocumentMark p.rest then none
    else
      let q := p.skipBlanks
      match takeBreak? q.rest with
      | none => some ([], q)
      | some (c, rest) => (takeBreaks? fuel (q.nextLine rest)).map fun cut => (c :: cut.1, cut.2)

/-- The blanks behind a piece of a plain scalar, folded, whether a line ended, and the place behind
them.  Nothing means that the scalar ends here. -/
def plainSpaces (p : Place) : List Char × Bool × Place :=
  let blanks := p.rest.takeWhile (· == ' ')
  let q := p.forward blanks.length
  match takeBreak? q.rest with
  | none => (blanks, false, q)
  | some (c, rest) =>
    let next := q.nextLine rest
    match takeBreaks? (rest.length + 1) next with
    | none => ([], true, next)
    | some (more, after) => (folded c more, true, after)

/-- The pieces of a plain scalar with the blanks between them, whether a line ended, and the place
behind them. -/
def takePlain (inFlow : Bool) (indent : Int) :
    Nat → (spaces : List Char) → (broken : Bool) → Place → List Char × Bool × Place
  | 0, _, broken, p => ([], broken, p)
  | fuel + 1, spaces, broken, p =>
    let n := if p.rest.head? == some '#' then 0 else plainLength inFlow p.rest
    if n == 0 then ([], broken, p)
    else
      let piece := spaces ++ p.rest.take n
      let (next, ended, q) := plainSpaces (p.forward n)
      if next.isEmpty || (!inFlow && (q.column : Int) < indent + 1) then (piece, ended, q)
      else
        let (more, ended, after) := takePlain inFlow indent fuel next ended q
        (piece ++ more, ended, after)

end ProjectCheck.Yaml
