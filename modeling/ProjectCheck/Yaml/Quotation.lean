import ProjectCheck.Text.Quoted
import ProjectCheck.Yaml.Place

/-!
# Quoted scalars

A scalar in single quotes holds a quote where two are written.  In double quotes a backslash begins
an escape: a letter for one character, the code of a character in hexadecimal digits, or a line end
that stands for nothing.  Lines are folded in both.
-/

namespace ProjectCheck.Yaml

open ProjectCheck.Text

/-- The character that a letter stands for after a backslash. -/
def escapedChar? : Char → Option Char
  | '0' => some '\x00'
  | 'a' => some '\x07'
  | 'b' => some '\x08'
  | 't' => some '\t'
  | '\t' => some '\t'
  | 'n' => some '\n'
  | 'v' => some '\x0b'
  | 'f' => some '\x0c'
  | 'r' => some '\r'
  | 'e' => some '\x1b'
  | ' ' => some ' '
  | '"' => some '"'
  | '\\' => some '\\'
  | '/' => some '/'
  | 'N' => some '\u0085'
  | '_' => some '\u00a0'
  | 'L' => some '\u2028'
  | 'P' => some '\u2029'
  | _ => none

/-- How many digits of a code follow a letter after a backslash. -/
def codeLength? : Char → Option Nat
  | 'x' => some 2
  | 'u' => some 4
  | 'U' => some 8
  | _ => none

/-- The number from which on a code is too great to be looked up. -/
def codeCeiling : Nat :=
  Nat.pow 2 31

/-- The character of a code of some digits at the front. -/
def takeCodedChar (n : Nat) (s : List Char) : Except Fault Char := do
  if s.length < n then throw .malformed
  let code ← orMalformed (hexNumber? (s.take n))
  if code ≥ codeCeiling then throw .tooGreat
  if code ≥ 0x110000 then throw .meaningless
  return if 0xD800 ≤ code && code ≤ 0xDFFF then '\uFFFD' else Char.ofNat code

/-- The line ends inside a quoted scalar and the place behind them and the blanks among them. -/
def takeQuotedBreaks? : Nat → Place → Option (List Char × Place)
  | 0, _ => none
  | fuel + 1, p =>
    if p.column == 0 && isDocumentMark p.rest then none
    else
      let q := p.skipTabs
      match takeBreak? q.rest with
      | none => some ([], q)
      | some (c, rest) =>
        (takeQuotedBreaks? fuel (q.nextLine rest)).map fun cut => (c :: cut.1, cut.2)

/-- Blanks and line ends inside a quoted scalar, folded, and the place behind them. -/
def quotedSpaces? (p : Place) : Option (List Char × Place) :=
  let blanks := p.rest.takeWhile fun c => c == ' ' || c == '\t'
  let q := p.forward blanks.length
  match q.rest with
  | [] => none
  | _ =>
    match takeBreak? q.rest with
    | none => some (blanks, q)
    | some (c, rest) =>
      (takeQuotedBreaks? (rest.length + 1) (q.nextLine rest)).map fun (more, after) =>
        (folded c more, after)

/-- What a backslash in double quotes stands for, and the place behind it. -/
def takeEscape (p : Place) : Except Fault (List Char × Place) :=
  let q := p.forward 1
  match q.rest with
  | [] => .error .malformed
  | c :: rest =>
    match escapedChar? c, codeLength? c with
    | some d, _ => .ok ([d], q.forward 1)
    | none, some n => (takeCodedChar n rest).map fun d => ([d], q.forward (n + 1))
    | none, none =>
      match takeBreak? q.rest with
      | none => .error .malformed
      | some (_, rest) => orMalformed (takeQuotedBreaks? (rest.length + 1) (q.nextLine rest))

/-- The rest of a quoted scalar after its opening quote, and the place behind its closing quote. -/
def takeQuoted (quote : Char) : Nat → Place → Except Fault (List Char × Place)
  | 0, _ => .error .malformed
  | fuel + 1, p =>
    let goOn := fun (cut : List Char × Place) =>
      (takeQuoted quote fuel cut.2).map fun more => (cut.1 ++ more.1, more.2)
    match p.rest with
    | [] => .error .malformed
    | c :: rest =>
      if c == quote then
        if quote == '\'' && rest.head? == some '\'' then goOn (['\''], p.forward 2)
        else .ok ([], p.forward 1)
      else if c == '\\' && quote == '"' then do goOn (← takeEscape p)
      else if endsToken p.rest then do goOn (← orMalformed (quotedSpaces? p))
      else goOn ([c], p.forward 1)

end ProjectCheck.Yaml
