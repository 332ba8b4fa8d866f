import ProjectCheck.Shell.Changes
import ProjectCheck.Shell.Listing

/-!
# Tools for paths

Tools that take paths apart as texts, without looking at the disk, or that say where a path leads.
-/

namespace ProjectCheck.Shell

open ProjectCheck.Disk ProjectCheck.Text

/-- A path without the slashes at its end. -/
def withoutFinalSlashes (path : List Char) : List Char :=
  let body := dropEndWhile (· == '/') path
  if body.isEmpty && !path.isEmpty then ['/'] else body

/-- The last name of a path, without an ending that it may have. -/
def lastNameWithout (ending : List Char) (path : String) : String :=
  let whole := withoutFinalSlashes path.toList
  let name := if whole == ['/'] then whole else ((pieces '/' whole).getLast?).getD []
  String.ofList (if !ending.isEmpty && ending.isSuffixOf name && ending != name then
      name.take (name.length - ending.length)
    else name)

/-- Prints the last names of paths. -/
def basename : Tool :=
  withOptions { tool := "basename", plain := ['a', 'z'], valued := ['s'], long := [("multiple", 'a'),
    ("suffix", 's'), ("zero", 'z')] } fun o m =>
  let isMany := o.has 'a' || o.has 's'
  match o.operands with
  | [] => complainOfOperands "basename" "operand" m
  | path :: rest =>
    if isMany then
      let ending := ((o.value? 's').getD "").toList
      (0, m.say (lined (o.operands.map (lastNameWithout ending))))
    else
      match rest with
      | [] => (0, m.say (lined [lastNameWithout [] path]))
      | [ending] => (0, m.say (lined [lastNameWithout ending.toList path]))
      | _ :: extra :: _ =>
        (1, m.complain ("basename: extra operand ‘" ++ extra ++
          "’\nTry 'basename --help' for more information."))

/-- What stands before the last name of a path. -/
def pathAbove (path : String) : String :=
  let whole := withoutFinalSlashes path.toList
  let before := (whole.reverse.dropWhile (· != '/')).reverse
  String.ofList (if whole == ['/'] then whole
    else if before.isEmpty then ['.']
    else withoutFinalSlashes before)

/-- Prints what stands before the last names of paths. -/
def dirname : Tool :=
  withOptions { tool := "dirname", plain := ['z'], long := [("zero", 'z')] } fun o m =>
  if o.operands.isEmpty then complainOfOperands "dirname" "operand" m
  else (0, m.say (lined (o.operands.map pathAbove)))

/-- How a location is reached from another: up to where their ways part, and down from there. -/
def wayBetween (base location : Location) : String :=
  let common := ((base.zip location).takeWhile fun (a, b) => a == b).length
  let up := List.replicate (base.length - common) ".."
  match up ++ location.drop common with
  | [] => "."
  | names => "/".intercalate names

/-- The options of `realpath`. -/
def realpathForm : OptionForm :=
  { tool := "realpath", plain := "emLPqsz".toList, valued := ['ρ', 'β']
    long := [("canonicalize-existing", 'e'), ("canonicalize-missing", 'm'), ("logical", 'L'),
      ("physical", 'P'), ("quiet", 'q'), ("relative-to", 'ρ'), ("relative-base", 'β'), ("strip", 's'),
      ("no-symlinks", 's'), ("zero", 'z')] }

/-- Prints the locations that paths mean; the directory of each has to be there. -/
def realpath : Tool := withOptions realpathForm fun o m =>
  let meant := locationMeant m (o.has 'e') (o.has 'm')
  let bases := ['ρ', 'β'].filterMap fun letter =>
    (o.value? letter).map fun path => (path, meant path)
  match o.operands, bases.find? fun (_, location) => location.toOption.isNone with
  | [], _ => complainOfOperands "realpath" "operand" m
  | _, some (path, .error why) => (1, complainOf "realpath" path why m)
  | paths, _ =>
    let base := (o.value? 'ρ').bind fun path => (meant path).toOption
    let least := (o.value? 'β').bind fun path => (meant path).toOption
    let shown := fun (location : Location) =>
      match base, least with
      | none, none => location.text
      | some base, none => wayBetween base location
      | none, some least =>
        if location.isWithin least then wayBetween least location else location.text
      | some base, some least =>
        if location.isWithin least && base.isWithin least then wayBetween base location
        else location.text
    forEach (fun path m =>
      match meant path with
      | .ok location => (0, m.say (shown location ++ if o.has 'z' then "\x00" else "\n"))
      | .error why => (1, if o.has 'q' then m else complainOf "realpath" path why m)) paths m

/-!
## New names

`mktemp` makes an empty file or directory under a name that nothing has.  The name follows a template, whose
last row of `X` gives way to letters.
-/

/-- The directory for what is of use only for a while. -/
def temporaryDirectory : String :=
  "/tmp"

/-- A template of a name, with how many letters may be chosen in it. -/
structure NameTemplate where
  lead : String
  choices : Nat
  ending : String
deriving Repr, DecidableEq

namespace NameTemplate

/-- The template that a text is, the letters standing in front of an ending, or behind the last of them if
none is given. -/
def read (text : String) (ending : Option String) : NameTemplate :=
  let s := text.toList
  let behind := match ending with
    | some _ => []
    | none => (s.reverse.takeWhile (· != 'X')).reverse
  let rest := s.take (s.length - behind.length)
  let choices := (rest.reverse.takeWhile (· == 'X')).length
  { lead := String.ofList (rest.take (rest.length - choices)), choices
    ending := String.ofList behind ++ ending.getD "" }

/-- The letters that may be chosen. -/
def letters : List Char :=
  "abcdefghijklmnopqrstuvwxyzABCDEFGHIJKLMNOPQRSTUVWXYZ0123456789".toList

/-- The name that comes with a number. -/
def name (t : NameTemplate) (number : Nat) : String :=
  let chosen := (List.range t.choices).map fun place =>
    (letters[(number / Nat.pow 7 place + 11 * place) % letters.length]?).getD 'a'
  t.lead ++ String.ofList chosen ++ t.ending

/-- The template as a text. -/
def text (t : NameTemplate) : String :=
  t.lead ++ String.ofList (List.replicate t.choices 'X') ++ t.ending

end NameTemplate

/-- The options of `mktemp`. -/
def newNameForm : OptionForm :=
  { tool := "mktemp", plain := "dqut".toList, valued := ['p', 'S']
    long := [("directory", 'd'), ("quiet", 'q'), ("dry-run", 'u'), ("tmpdir", 'P'), ("suffix", 'S')]
    attached := ['P'] }

/-- How many names are tried. -/
def nameTries : Nat :=
  1000

/-- Makes something under the first name that nothing has. -/
def makeNew (o : Options) (t : NameTemplate) (m : Machine) : Nat × Machine :=
  let refuse := fun (why : Obstruction) =>
    (1, if o.has 'q' then m else m.complain ("mktemp: failed to create " ++
      (if o.has 'd' then "directory" else "file") ++ " via template " ++ quoted t.text ++ ": " ++ why.message))
  match (List.range nameTries).find? fun n => (standing? m (t.name n)).isNone with
  | none => refuse .isThere
  | some n =>
    let path := t.name n
    if o.has 'u' then (0, m.say (path ++ "\n"))
    else
      match entryLocation? m path with
      | none => refuse (absence m path)
      | some location =>
        match obstacle? m location with
        | some why => refuse why
        | none =>
          let node : Node := if o.has 'd' then .empty else .file []
          let m := (m.place location node).setMode location (if o.has 'd' then 0o700 else 0o600)
          (0, m.say (path ++ "\n"))

/-- Makes an empty file or directory under a name that nothing has. -/
def mktemp : Tool :=
  withOptions newNameForm fun o m =>
  let fail := fun (what : String) => (1, if o.has 'q' then m else m.complain ("mktemp: " ++ what))
  match o.operands with
  | _ :: _ :: _ => refuseWith "mktemp" "too many templates" m
  | operands =>
    let text := operands.headD "tmp.XXXXXXXXXX"
    let t := NameTemplate.read text (o.value? 'S')
    let usual := ((m.value? "TMPDIR").filter (!·.isEmpty)).getD temporaryDirectory
    let asked := (o.given.filter fun (c, _) => c == 'p' || c == 'P').getLast?.map (·.2)
    let hasDirectory := operands.isEmpty || o.has 't' || asked.isSome
    let directory := if o.has 't' then (m.value? "TMPDIR").filter (!·.isEmpty) <|> asked.filter (!·.isEmpty)
      else asked.filter (!·.isEmpty)
    if (o.value? 'S').isSome && text.toList.getLast? != some 'X' then
      fail ("with --suffix, template " ++ quoted text ++ " must end in X")
    else if t.ending.toList.contains '/' && (o.value? 'S').isSome then
      fail ("invalid suffix " ++ quoted t.ending ++ ", contains directory separator")
    else if t.choices < 3 then fail ("too few X's in template " ++ quoted text)
    else if t.ending.toList.contains '/' then
      fail ("invalid suffix " ++ quoted t.ending ++ ", contains directory separator")
    else if !hasDirectory then makeNew o t m
    else if o.has 't' && text.toList.contains '/' then
      fail ("invalid template, " ++ quoted text ++ ", contains directory separator")
    else if Path.isAbsolute text.toList then
      fail ("invalid template, " ++ quoted text ++ "; with --tmpdir, it may not be absolute")
    else
      let directory := directory.getD usual
      let lead := if directory.toList.getLast? == some '/' then directory else directory ++ "/"
      makeNew o { t with lead := lead ++ t.lead } m

end ProjectCheck.Shell
