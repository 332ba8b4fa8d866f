import ProjectCheck.Yaml.Place

/-!
# Block scalars

A block scalar is a run of lines that are indented alike, after a header that may say how far.  Its
lines are kept as they are, or folded where neither of two neighbours begins with a blank.  The
header also says how many of the line ends behind the text belong to it: all, none, or one.
-/

namespace ProjectCheck.Yaml

/-- What the marks behind the opening of a block scalar say: which line ends at the end are kept, and
how far the text is indented. -/
structure BlockHeader where
  /-- Whether all line ends at the end are kept, or none; one is kept if nothing is said. -/
  keep : Option Bool := none
  indent : Option Nat := none
deriving Repr

/-- Whether a mark keeps all line ends or none. -/
def keepMark? : Char → Option Bool
  | '+' => some true
  | '-' => some false
  | _ => none

/-- An indentation from one to nine. -/
def indentMark? (c : Char) : Option Nat :=
  if '1' ≤ c && c ≤ '9' then some (c.toNat - 48) else none

/-- The header of a block scalar, and how many characters it takes. -/
def blockHeader (s : List Char) : BlockHeader × Nat :=
  match s with
  | a :: rest =>
    let second := rest.head?
    match keepMark? a, indentMark? a with
    | some keep, _ =>
      match second.bind indentMark? with
      | some n => (⟨some keep, some n⟩, 2)
      | none => (⟨some keep, none⟩, 1)
    | none, some n =>
      match second.bind keepMark? with
      | some keep => (⟨some keep, some n⟩, 2)
      | none => (⟨none, some n⟩, 1)
    | none, none => ({}, 0)
  | [] => ({}, 0)

/-- The blank lines at the front, the widest indentation among them and the line behind them, and
the place behind the blanks of that line. -/
def findIndentation : Nat → Nat → Place → List Char × Nat × Place
  | 0, widest, p => ([], widest, p)
  | fuel + 1, widest, p =>
    let q := p.skipBlanks
    let widest := max widest q.column
    match takeBreak? q.rest with
    | none => ([], widest, q)
    | some (c, rest) =>
      let (more, widest, after) := findIndentation fuel widest (q.nextLine rest)
      (c :: more, widest, after)

/-- The place behind blanks up to a column. -/
def skipTo (column : Nat) (p : Place) : Place :=
  p.forward (min (p.count (· == ' ')) (column - p.column))

/-- The line ends before the next line of a block scalar, and the place where it begins. -/
def takeBlockBreaks (indent : Nat) : Nat → Place → List Char × Place
  | 0, p => ([], p)
  | fuel + 1, p =>
    let q := skipTo indent p
    match takeBreak? q.rest with
    | none => ([], q)
    | some (c, rest) =>
      let (more, after) := takeBlockBreaks indent fuel (q.nextLine rest)
      (c :: more, after)

/-- Whether a text begins with a blank or a tab. -/
def startsBlank (s : List Char) : Bool :=
  s.head?.any fun c => c == ' ' || c == '\t'

/-- The lines of a block scalar after the line ends `breaks`: their text, the last line end, the line
ends behind it, and the place behind all. -/
def takeBlockLines (fold : Bool) (indent : Nat) :
    Nat → (breaks : List Char) → Place → List Char × List Char × List Char × Place
  | 0, breaks, p => ([], [], breaks, p)
  | fuel + 1, breaks, p =>
    if p.column != indent || p.rest.isEmpty then ([], [], breaks, p)
    else
      let line := p.rest.takeWhile (!isBreak ·)
      let q := p.skipLine
      let (lineEnd, next) := match takeBreak? q.rest with
        | none => ([], q)
        | some (c, rest) => ([c], q.nextLine rest)
      let (more, after) := takeBlockBreaks indent (next.rest.length + 1) next
      if after.column == indent && !after.rest.isEmpty then
        let joined :=
          if fold && lineEnd == ['\n'] && !startsBlank p.rest && !startsBlank after.rest then
            if more.isEmpty then [' '] else []
          else lineEnd
        let (text, lastEnd, others, final) := takeBlockLines fold indent fuel more after
        (breaks ++ line ++ joined ++ text, lastEnd, others, final)
      else (breaks ++ line, lineEnd, more, after)

/-- The text of a block scalar after its opening, in a block of some indentation. -/
def takeBlockScalar? (fold : Bool) (outer : Int) (p : Place) : Option (List Char × Place) :=
  let (header, n) := blockHeader p.rest
  let afterHeader := p.forward n
  if !endsLine afterHeader.rest && afterHeader.rest.head? != some ' ' then none
  else
    let afterBlanks := afterHeader.skipBlanks
    let lineEnd := if afterBlanks.rest.head? == some '#' then afterBlanks.skipLine else afterBlanks
    if !endsLine lineEnd.rest then none
    else
      let start := match takeBreak? lineEnd.rest with
        | none => lineEnd
        | some (_, rest) => lineEnd.nextLine rest
      let least := (max 1 (outer + 1)).toNat
      let fuel := start.rest.length + 1
      let (indent, breaks, place) := match header.indent with
        | some n =>
          let indent := least + n - 1
          (indent, takeBlockBreaks indent fuel start)
        | none =>
          let (breaks, widest, place) := findIndentation fuel 0 start
          (max least widest, breaks, place)
      let (text, lastEnd, others, after) := takeBlockLines fold indent fuel breaks place
      let kept := match header.keep with
        | some false => []
        | some true => lastEnd ++ others
        | none => lastEnd
      some (text ++ kept, after)

end ProjectCheck.Yaml
