import ProjectCheck.Shell.Reading

/-!
# Parts of lines

`cut` prints the parts of lines that stand within some spans: bytes, or fields between separators.
-/

namespace ProjectCheck.Shell

open ProjectCheck.Number ProjectCheck.Text

/-! ## Spans -/

/-- From which number to which, to the end if there is no second one. -/
structure Span where
  first : Nat
  last : Option Nat
deriving Repr, DecidableEq

/-- Why a list of spans is none. -/
inductive SpanFault where
  | fromZero
  | noEndpoint
  | decreasing
  | twoDashes
  | badSign (rest : String)
  | tooLarge (digits : String)
deriving Repr, DecidableEq

/-- What is said of a list of spans that is none. -/
def SpanFault.message (byFields : Bool) : SpanFault → String
  | fromZero =>
    if byFields then "fields are numbered from 1" else "byte/character positions are numbered from 1"
  | noEndpoint => "invalid range with no endpoint: -"
  | decreasing => "invalid decreasing range"
  | twoDashes => if byFields then "invalid field range" else "invalid byte or character range"
  | badSign rest =>
    (if byFields then "invalid field value " else "invalid byte/character position ") ++ quoted rest
  | tooLarge digits =>
    (if byFields then "field number " else "byte/character offset ") ++ quoted digits ++ " is too large"

namespace Span

/-- A span that is being read: the number in front of a dash, whether there is a dash, and the number behind
it. -/
structure Draft where
  first : Option Nat := none
  hasDash : Bool := false
  last : Option Nat := none

/-- The span that has been read. -/
def Draft.finish (d : Draft) : Except SpanFault Span :=
  if !d.hasDash then
    match d.first with
    | none => .error .fromZero
    | some 0 => .error .fromZero
    | some n => .ok ⟨n, some n⟩
  else
    match d.first, d.last with
    | none, none => .error .noEndpoint
    | first, none => .ok ⟨first.getD 1, none⟩
    | first, some n => if n < first.getD 1 then .error .decreasing else .ok ⟨first.getD 1, some n⟩

/-- Whether a character stands between spans. -/
def isBetween (c : Char) : Bool :=
  c == ',' || c == ' ' || c == '\t'

/-- The spans that a text lists. -/
def readFrom : Nat → Draft → List Char → Except SpanFault (List Span)
  | 0, d, _ => d.finish.map ([·])
  | fuel + 1, d, s =>
    match s with
    | [] => d.finish.map ([·])
    | c :: rest => do
      if c == '-' then
        if d.hasDash then throw .twoDashes
        if d.first = some 0 then throw .fromZero
        readFrom fuel { d with hasDash := true } rest
      else if isBetween c then
        let span ← d.finish
        return span :: (← readFrom fuel {} rest)
      else
        match takeAsciiDigits s with
        | ([], _) => throw (.badSign (String.ofList s))
        | (digits, rest) =>
          let n := asciiValue digits
          if countLimit ≤ n then throw (.tooLarge (String.ofList digits))
          readFrom fuel
            (if d.hasDash then { d with last := some n } else { d with first := some n }) rest

/-- Whether a span begins within another or in front of its end. -/
def touches (a b : Span) : Bool :=
  a.last.all (b.first ≤ ·)

/-- Spans in order, those that overlap in one. -/
def joined (spans : List Span) : List Span :=
  let sorted := spans.mergeSort fun a b => decide (a.first ≤ b.first)
  (sorted.foldl (fun (done : List Span) span =>
    match done with
    | before :: others =>
      if before.touches span then
        ⟨before.first, before.last.bind fun m => span.last.map (Nat.max m)⟩ :: others
      else span :: done
    | [] => [span]) []).reverse

/-- The spans between spans that are in order. -/
def others (next : Nat) : List Span → List Span
  | [] => [⟨next, none⟩]
  | span :: rest =>
    (if next < span.first then [⟨next, some (span.first - 1)⟩] else []) ++
      match span.last with
      | none => []
      | some n => others (n + 1) rest

/-- The spans that a text lists, in order, or those between them. -/
def read (isOther : Bool) (text : String) : Except SpanFault (List Span) := do
  let spans ← readFrom (text.length + 1) {} text.toList
  return if isOther then others 1 (joined spans) else joined spans

/-- The part of a list within a span. -/
def part {α : Type} (span : Span) (xs : List α) : List α :=
  (span.last.elim xs xs.take).drop (span.first - 1)

end Span

/-! ## The tool -/

/-- What is cut out of lines, and how. -/
structure LineCutting where
  byFields : Bool
  list : String
  separator : UInt8
  hasSeparator : Bool

/-- What options ask to cut out, or what is wrong with them; of two faults the one that stands first
counts. -/
def LineCutting.ofOptions (o : Options) : Except String LineCutting := do
  let (list, separator) ← o.given.foldlM (fun ((list : Option (Char × String)), (separator : Option UInt8)) (letter, value) =>
    if ['b', 'c', 'f'].contains letter then
      if list.isSome then throw "only one list may be specified"
      else pure (some (letter, value), separator)
    else if letter == 'd' then
      match bytesOf value with
      | [] => pure (list, some 0)
      | [b] => pure (list, some b)
      | _ => throw "the delimiter must be a single character"
    else pure (list, separator)) (none, none)
  match list with
  | none => throw "you must specify a list of bytes, characters, or fields"
  | some (letter, list) =>
    let byFields := letter == 'f'
    if !byFields && separator.isSome then
      throw "an input delimiter may be specified only when operating on fields"
    if !byFields && o.has 's' then
      throw "suppressing non-delimited lines makes sense\n\tonly when operating on fields"
    return { byFields, list, separator := separator.getD 9, hasSeparator := separator.isSome }

/-- The options of `cut`. -/
def cutForm : OptionForm :=
  { tool := "cut", plain := ['n', 's', 'z', 'γ'], valued := ['b', 'c', 'd', 'f', 'δ']
    long := [("bytes", 'b'), ("characters", 'c'), ("fields", 'f'), ("delimiter", 'd'),
      ("only-delimited", 's'), ("output-delimiter", 'δ'), ("complement", 'γ'), ("zero-terminated", 'z')] }

/-- Prints parts of lines: bytes, or fields between separators. -/
def cut : Tool :=
  withOptions cutForm fun o m =>
  match LineCutting.ofOptions o with
  | .error what => refuseWith "cut" what m
  | .ok c =>
    match Span.read (o.has 'γ') c.list with
    | .error fault => refuseWith "cut" (fault.message c.byFields) m
    | .ok spans =>
      let between := (o.value? 'δ').map fun s => if s.isEmpty then [0] else bytesOf s
      let shown := fun (line : List UInt8) =>
        if !c.byFields then
          let parts := spans.map (·.part line)
          some ((between.getD []).intercalate (parts.filter (!·.isEmpty)))
        else if !line.contains c.separator then if o.has 's' then none else some line
        else
          some ((between.getD [c.separator]).intercalate
            (spans.flatMap (·.part (line.splitOn c.separator))))
      let mark := o.recordEnd
      overNamed o.operands (complainOf "cut") (fun _ bytes =>
        ((recordsOf mark bytes).filterMap shown).flatMap (· ++ [mark])) m

end ProjectCheck.Shell
