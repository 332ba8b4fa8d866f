import ProjectCheck.Shell.Changes
import ProjectCheck.Shell.Listing

/-!
# Sizes and parts of files

`stat` shows what is known of a file beside its content, `truncate` gives a file a size, and `split`
writes the parts of a file into files of their own.
-/

namespace ProjectCheck.Shell

open ProjectCheck.Disk ProjectCheck.Text

/-! ## What is known of a file -/

/-- What kind something is of, in words. -/
def kindShown : Node → String
  | .directory _ => "directory"
  | .link _ => "symbolic link"
  | .file [] => "regular empty file"
  | .file _ => "regular file"

/-- What a letter behind a percent sign shows of something. -/
def detailShown (l : Listed) (letter : Char) : String :=
  match letter with
  | 'n' => l.name
  | 's' => toString l.size
  | 'F' => kindShown l.node
  | 'a' => l.mode.digits
  | 'A' => String.singleton l.kindSign ++ l.mode.shown
  | 'h' => toString l.linkCount
  | 'u' => "0"
  | 'g' => "0"
  | 'U' => "root"
  | 'G' => "root"
  | 'b' => toString (2 * l.room)
  | 'B' => "512"
  | 'N' =>
    match l.node with
    | .link target => cited l.name ++ " -> " ++ cited target
    | _ => cited l.name
  | '%' => "%"
  | _ => "?"

/-- A text in which what stands behind percent signs is replaced; with escapes, if they are asked
for. -/
def detailsShown (hasEscapes : Bool) (l : Listed) : List Char → String
  | '%' :: letter :: rest => detailShown l letter ++ detailsShown hasEscapes l rest
  | '\\' :: 'n' :: rest =>
    (if hasEscapes then "\n" else "\\n") ++ detailsShown hasEscapes l rest
  | '\\' :: 't' :: rest =>
    (if hasEscapes then "\t" else "\\t") ++ detailsShown hasEscapes l rest
  | c :: rest => String.singleton c ++ detailsShown hasEscapes l rest
  | [] => ""

/-- Shows what is known of files. -/
def stat : Tool :=
  withOptions
    { tool := "stat", plain := "Lft".toList, valued := ['c', 'p']
      long := [("format", 'c'), ("printf", 'p'), ("dereference", 'L'), ("terse", 't')] } fun o m =>
  if o.operands.isEmpty then complainOfOperands "stat" "operand" m
  else
    forEach (fun path m =>
      let node := if o.has 'L' then m.reach? path else standing? m path
      let location := if o.has 'L' then canonical? m.disk m.directory path else entryLocation? m path
      match node with
      | none => (1, m.complain ("stat: cannot statx " ++ cited path ++ ": " ++ (absence m path).message))
      | some node =>
        let l : Listed := ⟨path, node, m.modeAt (location.getD []) node⟩
        match o.value? 'p', o.value? 'c' with
        | some text, _ => (0, m.say (detailsShown true l text.toList))
        | none, some text => (0, m.say (detailsShown false l text.toList ++ "\n"))
        | none, none => (0, m.say ("  File: " ++ path ++ "\n"))) o.operands m

/-! ## Sizes -/

/-- A size after a text has been followed, which may begin with a sign. -/
def sizeAfter? (text : String) (old : Nat) : Option Nat :=
  match text.toList with
  | '+' :: rest => (countOf? (String.ofList rest)).map (old + ·)
  | '-' :: rest => (countOf? (String.ofList rest)).map (old - ·)
  | '<' :: rest => (countOf? (String.ofList rest)).map (Nat.min old)
  | '>' :: rest => (countOf? (String.ofList rest)).map (Nat.max old)
  | _ => countOf? text

/-- Gives files a size. -/
def truncate : Tool :=
  withOptions
    { tool := "truncate", plain := ['c', 'o'], valued := ['s', 'r']
      long := [("size", 's'), ("no-create", 'c'), ("reference", 'r'), ("io-blocks", 'o')] }
    fun o m =>
  let reference := (o.value? 'r').bind fun path => (bytesNamed m path).toOption.map fun bytes =>
    toString bytes.length
  match o.value? 's' <|> reference with
  | none =>
    refuseWith "truncate" "you must specify either ‘--size’ or ‘--reference’" m
  | some text =>
    if (sizeAfter? text 0).isNone then (1, m.complain ("truncate: Invalid number: " ++ quoted text))
    else if o.operands.isEmpty then complainOfOperands "truncate" "file operand" m
    else
      forEach (fun path m =>
        let refuse := fun (why : Obstruction) =>
          (1, m.complain ("truncate: cannot open " ++ cited path ++ " for writing: " ++ why.message))
        match canonical? m.disk m.directory path with
        | none => refuse .endlessLinks
        | some location =>
          match m.disk.at? location, obstacle? m location with
          | some (.file content), _ =>
            let size := (sizeAfter? text content.length).getD 0
            (0, m.place location
              (.file (content.take size ++ List.replicate (size - content.length) 0)))
          | some _, _ => refuse .isDirectory
          | none, some why => refuse why
          | none, none =>
            if o.has 'c' then (0, m)
            else (0, m.place location (.file (List.replicate ((sizeAfter? text 0).getD 0) 0))))
        o.operands m

/-! ## Parts -/

/-- Parts of so many lines. -/
def lineParts (count : Nat) (lines : List (List UInt8)) : List (List UInt8) :=
  if _h : count = 0 ∨ lines.length ≤ count then [lines.flatten]
  else (lines.take count).flatten :: lineParts count (lines.drop count)
termination_by lines.length
decreasing_by
  simp
  omega

/-- The ending of the name of a part, in letters or digits. -/
def partEnding (inDigits : Bool) (places n : Nat) : String :=
  let base := if inDigits then 10 else 26
  let first := if inDigits then '0' else 'a'
  String.ofList (((List.range places).map fun i =>
    Char.ofNat (first.toNat + n / Nat.pow base i % base)).reverse)

/-- Writes the parts of a file into files. -/
def split : Tool :=
  withOptions
    { tool := "split", plain := ['d', 'e', 'u', 'x'], valued := ['l', 'b', 'a', 'C', 'n', 't']
      long := [("lines", 'l'), ("bytes", 'b'), ("suffix-length", 'a'), ("numeric-suffixes", 'd')] }
    fun o m =>
  let name := o.operands.headD "-"
  let lead := (o.operands[1]?).getD "x"
  match bytesNamed m name with
  | .error why =>
    (1, m.complain ("split: " ++ (if why = .isDirectory then citedIfOdd name
      else "cannot open " ++ cited name ++ " for reading") ++ ": " ++ why.message))
  | .ok bytes =>
    let parts := if bytes.isEmpty then []
      else match (o.value? 'b').bind countOf? with
        | some size => chunks size bytes
        | none => lineParts (((o.value? 'l').bind countOf?).getD 1000) (byteLines bytes)
    let places := ((o.value? 'a').bind String.toNat?).getD 2
    parts.zipIdx.foldl (fun ((status : Nat), (m : Machine)) (part, i) =>
      let path := lead ++ partEnding (o.has 'd') places i
      match canonical? m.disk m.directory path with
      | some location =>
        match obstacle? m location with
        | some why => (1, complainOf "split" path why m)
        | none => (status, m.place location (.file part))
      | none => (1, m)) (0, afterReading m name)

end ProjectCheck.Shell
