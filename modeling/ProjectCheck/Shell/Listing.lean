import ProjectCheck.Shell.Order
import ProjectCheck.Shell.Pattern

/-!
# What is in directories

`ls` shows the names in directories, with what is known of what goes by them if that is asked for, and
`readlink` shows where links lead.

A listing has a form: which names are in it, in what order they stand, how they are written and how they are
laid out.  Of options that say the same thing the last one counts.
-/

namespace ProjectCheck.Shell

open ProjectCheck.Disk ProjectCheck.Text

/-! ## Forms -/

/-- Which names are shown of those that begin with a dot. -/
inductive HiddenNames where
  | none_
  /-- All but those of a directory itself and of the one above. -/
  | almostAll
  | all
deriving Repr, DecidableEq

/-- How names are ordered. -/
inductive ListingOrder where
  | names
  | sizes
  | endings
  | versions
  | widths
  | asTheyCome
deriving Repr, DecidableEq

/-- How names are laid out. -/
inductive ListingLayout where
  | lines
  | long
  | commas
  | down
  | across
deriving Repr, DecidableEq

/-- How names are written. -/
inductive NameStyle where
  | literal
  | word
  | quotedWord
  | escaped
  | doubleQuoted
deriving Repr, DecidableEq

/-- Which signs stand behind names for what goes by them. -/
inductive KindSigns where
  | none_
  | directories
  | kinds
  | all
deriving Repr, DecidableEq

/-- When a link is followed. -/
inductive LinkUse where
  | kept
  | followedToDirectories
  | followedIfNamed
  | followed
deriving Repr, DecidableEq

/-- The form of a listing. -/
structure ListingForm where
  hidden : HiddenNames := .none_
  /-- Names that fit one of these are not shown. -/
  ignored : List Pattern := []
  /-- Names that fit one of these are not shown unless those with a dot are. -/
  ignoredIfUsual : List Pattern := []
  order : ListingOrder := .names
  isReverse : Bool := false
  directoriesFirst : Bool := false
  layout : ListingLayout := .lines
  style : NameStyle := .literal
  masks : Bool := false
  signs : KindSigns := .none_
  links : Option LinkUse := none
  opensNothing : Bool := false
  isDeep : Bool := false
  showsRoom : Bool := false
  showsNumber : Bool := false
  isHuman : Bool := false
  hasOwner : Bool := true
  hasGroup : Bool := true
  byNumber : Bool := false
  isColoured : Bool := false
  width : Nat := 80
  tab : Nat := 8
  mark : String := "\n"

/-- What is said of a word that an option does not know. -/
def unknownWord (word option : String) (known : List (List String)) : String :=
  "invalid argument " ++ quoted word ++ " for " ++ quoted option ++ "\nValid arguments are:" ++
    String.join (known.map fun words => "\n  - " ++ ", ".intercalate (words.map quoted))

/-- What a word that an option knows means; words may be shortened as long as it is clear which is meant. -/
def wordMeant {α : Type} [DecidableEq α] (option word : String) (known : List (List String × α)) :
    Except String α :=
  let all := known.flatMap fun (words, x) => words.map (·, x)
  match all.lookup word, (all.filter fun (w, _) => word.toList.isPrefixOf w.toList).map (·.2) with
  | some x, _ => .ok x
  | none, x :: others =>
    if others.all (· = x) then .ok x
    else .error ("ambiguous argument " ++ quoted word ++ " for " ++ quoted option ++
      "\nValid arguments are:" ++
      String.join (known.map fun (words, _) => "\n  - " ++ ", ".intercalate (words.map quoted)))
  | none, [] => .error (unknownWord word option (known.map (·.1)))

namespace ListingForm

/-- The form with what an option asks for, or what is wrong with it. -/
def withOption (f : ListingForm) : Char × String → Except (Nat × String) ListingForm
  | (letter, value) =>
    let hint := "\nTry 'ls --help' for more information."
    let said := fun (what : String) => ((1, what ++ hint) : Nat × String)
    let number := fun (what : String) (use : Nat → ListingForm) =>
      match value.toNat? with
      | some n => Except.ok (use n)
      | none => .error (2, what ++ ": " ++ quoted value)
    match letter with
    | 'a' => .ok { f with hidden := .all }
    | 'A' => .ok { f with hidden := .almostAll }
    | 'B' => .ok { f with ignored := f.ignored ++ [.ofText "*~".toList, .ofText ".*~".toList] }
    | 'I' => .ok { f with ignored := f.ignored ++ [.ofText value.toList] }
    | 'η' => .ok { f with ignoredIfUsual := f.ignoredIfUsual ++ [.ofText value.toList] }
    | 'd' => .ok { f with opensNothing := true }
    | 'f' => .ok { f with hidden := .all, order := .asTheyCome }
    | 'U' => .ok { f with order := .asTheyCome }
    | 'S' => .ok { f with order := .sizes }
    | 'X' => .ok { f with order := .endings }
    | 'v' => .ok { f with order := .versions }
    | 'r' => .ok { f with isReverse := true }
    | 'σ' =>
      (wordMeant "--sort" value [(["none"], ListingOrder.asTheyCome), (["time"], .names),
        (["size"], .sizes), (["extension"], .endings), (["version"], .versions),
        (["width"], .widths)]).mapError said |>.map fun order => { f with order }
    | 'δ' => .ok { f with directoriesFirst := true }
    | 'l' => .ok { f with layout := .long }
    | 'n' => .ok { f with layout := .long, byNumber := true }
    | 'g' => .ok { f with layout := .long, hasOwner := false }
    | 'o' => .ok { f with layout := .long, hasGroup := false }
    | 'G' => .ok { f with hasGroup := false }
    | '1' => .ok (if f.layout = .long then f else { f with layout := .lines })
    | 'm' => .ok { f with layout := .commas }
    | 'C' => .ok { f with layout := .down }
    | 'x' => .ok { f with layout := .across }
    | 'φ' =>
      (wordMeant "--format" value [(["verbose", "long"], ListingLayout.long), (["commas"], .commas),
        (["horizontal", "across"], .across), (["vertical"], .down),
        (["single-column"], .lines)]).mapError said |>.map fun layout => { f with layout }
    | 'N' => .ok { f with style := .literal }
    | 'Q' => .ok { f with style := .doubleQuoted }
    | 'b' => .ok { f with style := .escaped }
    | 'q' => .ok { f with masks := true }
    | 'κ' => .ok { f with masks := false }
    | 'θ' =>
      (wordMeant "--quoting-style" value [(["literal"], NameStyle.literal), (["shell"], .word),
        (["shell-always"], .quotedWord), (["shell-escape"], .word), (["shell-escape-always"], .quotedWord),
        (["c"], .doubleQuoted), (["c-maybe"], .doubleQuoted), (["escape"], .escaped),
        (["locale"], .doubleQuoted), (["clocale"], .doubleQuoted)]).mapError said |>.map
        fun style => { f with style }
    | 'p' => .ok { f with signs := .directories }
    | 'τ' => .ok { f with signs := .kinds }
    | 'F' =>
      .ok (if ["never", "no", "none", "auto", "tty", "if-tty"].contains value then f
        else { f with signs := .all })
    | 'ι' =>
      (wordMeant "--indicator-style" value [(["none"], KindSigns.none_), (["slash"], .directories),
        (["file-type"], .kinds), (["classify"], .all)]).mapError said |>.map
        fun signs => { f with signs }
    | 'L' => .ok { f with links := some .followed }
    | 'H' => .ok { f with links := some .followedIfNamed }
    | 'R' => .ok { f with isDeep := true }
    | 's' => .ok { f with showsRoom := true }
    | 'i' => .ok { f with showsNumber := true }
    | 'h' => .ok { f with isHuman := true }
    | 'w' => number "invalid line width" fun n => { f with width := n }
    | 'T' => number "invalid tab size" fun n => { f with tab := n }
    | 'ζ' =>
      .ok { f with mark := "\x00", style := .literal, masks := false, isColoured := false
                   layout := if f.layout = .long then .long else .lines }
    | 'χ' =>
      if value.isEmpty then .ok { f with isColoured := true }
      else
        (wordMeant "--color" value [(["always", "yes", "force"], true), (["never", "no", "none"], false),
          (["auto", "tty", "if-tty"], false)]).mapError said |>.map
          fun isColoured => { f with isColoured }
    | _ => .ok f

/-- The form that options ask for, or the status and what is said if they cannot be followed. -/
def ofOptions (o : Options) : Except (Nat × String) ListingForm :=
  o.given.foldlM withOption {}

/-- When links are followed, if no option says so. -/
def linkUse (f : ListingForm) : LinkUse :=
  f.links.getD (if f.opensNothing || f.signs = .all || f.layout = .long then .kept
    else .followedToDirectories)

/-- Whether a name is shown. -/
def shows (f : ListingForm) (name : String) : Bool :=
  let s := name.toList
  (f.hidden ≠ .none_ || s.head? != some '.') &&
    !(f.hidden = .none_ && f.ignoredIfUsual.any (·.fits s)) && !f.ignored.any (·.fits s)

end ListingForm

/-! ## Names -/

/-- A name in which each sign that does not show is written as an escape. -/
def withEscapes (escapesToo : Char → Bool) (name : String) : String :=
  String.ofList (name.toList.flatMap fun c =>
    if !isShown c then escapeOf c else if escapesToo c then ['\\', c] else [c])

/-- A name in a style. -/
def NameStyle.write (style : NameStyle) (name : String) : String :=
  match style with
  | literal => name
  | word => if isPlainName name.toList then name else cited name
  | quotedWord => cited name
  | escaped => withEscapes (fun c => c == ' ' || c == '\\') name
  | doubleQuoted => "\"" ++ withEscapes (fun c => c == '"' || c == '\\') name ++ "\""

/-- Something that is listed under a name. -/
structure Listed where
  name : String
  node : Node
  mode : Mode
deriving Repr

/-- A size in the greatest unit of which there is one, rounded up. -/
def humanSize (n : Nat) : String :=
  let inUnit := fun (unit : Nat) (letter : String) =>
    let tenths := (10 * n + unit - 1) / unit
    if tenths < 100 then toString (tenths / 10) ++ "." ++ toString (tenths % 10) ++ letter
    else toString ((n + unit - 1) / unit) ++ letter
  if n < 1024 then toString n
  else if n ≤ 1023 * 1024 then inUnit 1024 "K"
  else if n ≤ 1023 * 1048576 then inUnit 1048576 "M"
  else inUnit 1073741824 "G"

namespace Listed

/-- How many bytes there are of it. -/
def size (l : Listed) : Nat :=
  match l.node with
  | .file content => content.length
  | .link target => target.utf8ByteSize
  | .directory _ => 4096

/-- How much room it takes, in units of a thousand bytes. -/
def room (l : Listed) : Nat :=
  match l.node with
  | .file content => (content.length + 4095) / 4096 * 4
  | .link _ => 0
  | .directory _ => 4

/-- How many names lead to it. -/
def linkCount (l : Listed) : Nat :=
  match l.node with
  | .directory entries => 2 + (entries.filter (·.2.isDirectory)).length
  | _ => 1

/-- The sign for its kind. -/
def kindSign (l : Listed) : Char :=
  match l.node with
  | .directory _ => 'd'
  | .link _ => 'l'
  | .file _ => '-'

/-- The ending of its name. -/
def ending (l : Listed) : List Char :=
  let behind := l.name.toList.reverse.takeWhile (· != '.')
  if behind.length < l.name.length then behind.reverse else []

/-- The sign behind its name. -/
def sign (f : ListingForm) (l : Listed) : String :=
  match l.node with
  | .directory _ => if f.signs = .none_ then "" else "/"
  | .link _ =>
    if f.layout ≠ .long && (f.signs = .kinds || f.signs = .all) then "@" else ""
  | .file _ => if f.signs = .all && l.mode.isProgram then "*" else ""

/-- Its name as it is written, without what stands before and behind it. -/
def written (f : ListingForm) (l : Listed) : String :=
  let name := f.style.write l.name
  if f.masks then String.ofList (name.toList.map fun c => if isShown c then c else '?') else name

/-- The colour of its name. -/
def colour? (l : Listed) : Option String :=
  match l.node with
  | .directory _ => some "01;34"
  | .link _ => some "01;36"
  | .file _ => if l.mode.isProgram then some "01;32" else none

/-- Its name as it is shown. -/
def shownName (f : ListingForm) (l : Listed) : String :=
  let name := l.written f
  (match l.colour? with
    | some colour => if f.isColoured then "\x1b[" ++ colour ++ "m" ++ name ++ "\x1b[0m" else name
    | none => name) ++ l.sign f

/-- A number of bytes as it is shown. -/
def sizeShown (f : ListingForm) (n : Nat) : String :=
  if f.isHuman then humanSize n else toString n

/-- The room that it takes as it is shown. -/
def roomShown (f : ListingForm) (n : Nat) : String :=
  if f.isHuman then humanSize (1024 * n) else toString n

/-- What stands in front of its name: its number and the room that it takes. -/
def lead (f : ListingForm) (roomWidth : Nat) (l : Listed) : String :=
  (if f.showsNumber then "1 " else "") ++
    if f.showsRoom then alignedText roomWidth (roomShown f l.room) ++ " " else ""

/-- What is shown of the time that something was changed. -/
def time : String :=
  "Jan  1 00:00"

/-- The long lines for what is listed. -/
def longLines (f : ListingForm) (roomWidth : Nat) (all : List Listed) : List String :=
  let width := fun (of_ : Listed → String) => (all.map fun l => (of_ l).length).foldl Nat.max 0
  let links := fun (l : Listed) => toString l.linkCount
  let size := fun (l : Listed) => sizeShown f l.size
  let (linkWidth, sizeWidth) := (width links, width size)
  let user := if f.byNumber then "0 " else "root "
  all.map fun l =>
    l.lead f roomWidth ++ String.singleton l.kindSign ++ l.mode.shown ++ " " ++
      alignedText linkWidth (links l) ++ " " ++ (if f.hasOwner then user else "") ++
      (if f.hasGroup then user else "") ++ alignedText sizeWidth (size l) ++ " " ++ time ++ " " ++
      l.shownName f ++
      match l.node with
      | .link target => " -> " ++ f.style.write target
      | _ => ""

end Listed

/-! ## Layouts -/

/-- What is listed, in the order of a form. -/
def ListingForm.inOrder (f : ListingForm) (items : List Listed) : List Listed :=
  let byName := if f.order = .asTheyCome then items
    else items.mergeSort fun a b => decide (a.name ≤ b.name)
  let sorted := match f.order with
    | .sizes => byName.mergeSort fun a b => decide (b.size ≤ a.size)
    | .endings => byName.mergeSort fun a b =>
      decide (String.ofList a.ending ≤ String.ofList b.ending)
    | .versions => byName.mergeSort fun a b =>
      (OrderWay.compareVersions (bytesOf a.name) (bytesOf b.name)).isLE
    | .widths => byName.mergeSort fun a b => decide (a.name.length ≤ b.name.length)
    | _ => byName
  let sorted := if f.isReverse && f.order ≠ .asTheyCome then sorted.reverse else sorted
  if f.directoriesFirst then
    sorted.filter (·.node.isDirectory) ++ sorted.filter fun l => !l.node.isDirectory
  else sorted

/-- What is in a directory, in order. -/
def ListingForm.itemsIn (f : ListingForm) (m : Machine) (location : Location)
    (entries : List (String × Node)) : List Listed :=
  let item := fun (location : Location) (name : String) (node : Node) =>
    (⟨name, node, m.modeAt location node⟩ : Listed)
  let followed := fun (location : Location) (node : Node) =>
    if f.linkUse = .followed then (m.disk.at? location |>.bind fun _ =>
      reach? m.disk location.dropLast (location.getLast?.getD "")).getD node
    else node
  let own := entries.map fun (name, node) =>
    item (location ++ [name]) name (followed (location ++ [name]) node)
  let above := (m.disk.at? location.dropLast).getD .empty
  let dots := if f.hidden = .all then
      [item location "." (.directory entries), item location.dropLast ".." above]
    else []
  f.inOrder (dots ++ own.filter fun l => f.shows l.name)

/-- Blanks from one column to another, with tabs where they fit. -/
def indentation (tab : Nat) : Nat → (start end_ : Nat) → String
  | 0, _, _ => ""
  | fuel + 1, start, end_ =>
    if end_ ≤ start then ""
    else if tab ≠ 0 && (start + 1) / tab < end_ / tab then
      "\t" ++ indentation tab fuel (start + tab - start % tab) end_
    else " " ++ indentation tab fuel (start + 1) end_

/-- Names in rows of so many columns, each name with its width, if they fit. -/
def inColumns (f : ListingForm) (names : List (String × Nat)) (columns : Nat) : Option (List String) :=
  let isAcross := f.layout = .across
  let rows := (names.length + columns - 1) / columns
  let at_ := fun (row column : Nat) =>
    names[if isAcross then row * columns + column else column * rows + row]?
  let table := (List.range rows).map fun row => (List.range columns).filterMap (at_ row)
  let width := fun (column : Nat) =>
    (table.map fun row => ((row[column]?).map (·.2)).getD 0).foldl Nat.max 0
  let widths := (List.range columns).map width
  let whole := (widths.map (· + 2)).foldl (· + ·) 0
  let isUsed := widths.all (0 < ·)
  if columns ≤ 1 || (isUsed && (f.width = 0 || whole ≤ f.width + 1)) then
    let starts := widths.foldl (fun starts w => starts ++ [(starts.getLast?).getD 0 + w + 2]) [0]
    some (table.map fun row =>
      String.join (row.zipIdx.map fun ((name, w), i) =>
        if i + 1 = row.length then name
        else
          let start := (starts[i]?).getD 0
          let next := (starts[i + 1]?).getD 0
          name ++ indentation f.tab (next - start) (start + w) next))
  else none

/-- Names behind each other with commas between them, on lines that are not too long. -/
def withCommas (f : ListingForm) (names : List (String × Nat)) : String :=
  (names.foldl (fun ((text : String), (column : Nat), (isFirst : Bool)) (name, width) =>
    if isFirst then (name, width, false)
    else if f.width = 0 || column + width + 2 < f.width then
      (text ++ ", " ++ name, column + width + 2, false)
    else (text ++ ",\n" ++ name, width, false)) ("", 0, true)).1

/-- The lines for what is listed. -/
def ListingForm.lines (f : ListingForm) (all : List Listed) : String :=
  let roomWidth := (all.map fun l => (Listed.roomShown f l.room).length).foldl Nat.max 0
  let marked := fun (lines : List String) => String.join (lines.map (· ++ f.mark))
  let shown := all.map fun l => (l.lead f roomWidth ++ l.shownName f,
    (l.lead f roomWidth ++ l.written f ++ l.sign f).length)
  match f.layout with
  | .long => marked (Listed.longLines f roomWidth all)
  | .lines => marked (shown.map (·.1))
  | .commas => if shown.isEmpty then "" else withCommas f shown ++ "\n"
  | _ =>
    marked (((List.range shown.length).reverse.map (· + 1)).findSome? (inColumns f shown)
      |>.getD (shown.map (·.1)))

/-- The lines for a directory, under its path if that is asked for, and those for the directories in
it if they are asked for too; `depth` bounds how far that goes. -/
def ListingForm.listed (f : ListingForm) (m : Machine) (withTitle : Bool) :
    (depth : Nat) → (path : String) → Location → Node → List String
  | 0, _, _, _ => []
  | depth + 1, path, location, node =>
    let items := f.itemsIn m location node.entries
    let total := if f.layout = .long || f.showsRoom then
      "total " ++ Listed.roomShown f ((items.map (·.room)).foldl (· + ·) 0) ++ f.mark else ""
    let title := if withTitle then f.style.write path ++ ":\n" else ""
    let own := title ++ total ++ f.lines items
    let inner := if !f.isDeep then [] else
      (items.filter fun l => l.node.isDirectory && l.name != "." && l.name != "..").map fun l =>
        ((if path.toList.getLast? == some '/' then path ++ l.name else path ++ "/" ++ l.name),
          location ++ [l.name], l.node)
    own :: inner.flatMap fun (path, location, node) => f.listed m withTitle depth path location node

/-- How deep directories may lie inside of each other. -/
def depthLimit : Nat :=
  1000

/-! ## The tools -/

/-- The options of `ls`. -/
def lsForm : OptionForm :=
  { tool := "ls", plain := "aAbBcCdDfFgGhHiklLmnNopqQrRsStuUvxXZ1κδζτχ".toList
    valued := ['I', 'T', 'w', 'η', 'σ', 'φ', 'θ', 'ι', 'π']
    long := [("all", 'a'), ("escape", 'b'), ("directory", 'd'), ("dired", 'D'),
      ("full-time", 'l'), ("group-directories-first", 'δ'), ("human-readable", 'h'), ("inode", 'i'),
      ("kibibytes", 'k'), ("numeric-uid-gid", 'n'), ("no-group", 'G'), ("hide-control-chars", 'q'),
      ("reverse", 'r'), ("size", 's'), ("width", 'w'), ("almost-all", 'A'), ("ignore-backups", 'B'),
      ("classify", 'F'), ("file-type", 'τ'), ("si", 'h'), ("dereference-command-line", 'H'),
      ("dereference-command-line-symlink-to-dir", 'H'), ("hide", 'η'), ("ignore", 'I'),
      ("indicator-style", 'ι'), ("dereference", 'L'), ("literal", 'N'), ("quote-name", 'Q'),
      ("quoting-style", 'θ'), ("recursive", 'R'), ("format", 'φ'), ("show-control-chars", 'κ'),
      ("sort", 'σ'), ("tabsize", 'T'), ("time", 'π'), ("time-style", 'π'), ("zero", 'ζ'),
      ("color", 'χ'), ("hyperlink", 'c'), ("block-size", 'π'), ("context", 'Z'), ("author", 'c')]
    free := ['χ', 'F', 'c'], faultStatus := 2 }

/-- A text with the sign that ends all colours in front of the first one. -/
def withFirstReset (s : String) : String :=
  let lead := "\x1b[".toList
  let rec go : List Char → List Char
    | [] => []
    | c :: rest => if lead.isPrefixOf (c :: rest) then "\x1b[0m".toList ++ c :: rest else c :: go rest
  String.ofList (go s.toList)

/-- What a path leads to in a listing: what stands there, or what a link there leads to. -/
def ListingForm.named? (f : ListingForm) (m : Machine) (path : String) : Option (Node × Location) :=
  let whole := (m.reach? path).bind fun node =>
    (canonical? m.disk m.directory path).map fun location => (node, location)
  let own := (standing? m path).map fun node => (node, (entryLocation? m path).getD [])
  match f.linkUse with
  | .kept => own
  | .followed => whole
  | .followedIfNamed => whole <|> own
  | .followedToDirectories => if whole.any (·.1.isDirectory) then whole else own

/-- Prints the names in directories, and the paths of files as they are.  Several directories have
their paths in front, and none is opened if only the paths are asked for. -/
def ls : Tool := withOptions lsForm fun o m =>
  match ListingForm.ofOptions o with
  | .error (status, what) => (status, m.complain ("ls: " ++ what))
  | .ok f =>
    let paths := if o.operands.isEmpty then ["."] else o.operands
    let missing := paths.filter fun path => (f.named? m path).isNone
    let m := missing.foldl (fun m path =>
      m.complain ("ls: cannot access " ++ cited path ++ ": " ++ (absence m path).message)) m
    let there := f.inOrder (paths.filterMap fun path => (f.named? m path).map fun (node, location) =>
      (⟨path, node, m.modeAt location node⟩ : Listed))
    let isOpened := fun (l : Listed) => !f.opensNothing && l.node.isDirectory
    let files := there.filter (!isOpened ·)
    let blocks := (there.filter isOpened).flatMap fun l =>
      f.listed m (paths.length > 1 || f.isDeep) depthLimit l.name
        (((f.named? m l.name).map (·.2)).getD []) l.node
    let all := (if files.isEmpty then [] else [f.lines files]) ++ blocks
    let text := "\n".intercalate all
    (if missing.isEmpty then 0 else 2, m.say (if f.isColoured then withFirstReset text else text))

/-- The options of `readlink`. -/
def readlinkForm : OptionForm :=
  { tool := "readlink", plain := "femnqsvz".toList
    long := [("canonicalize", 'f'), ("canonicalize-existing", 'e'), ("canonicalize-missing", 'm'),
      ("no-newline", 'n'), ("quiet", 'q'), ("silent", 's'), ("verbose", 'v'), ("zero", 'z')] }

/-- The location that a path means, if so much of it is there as is asked for: all of it, all but its last
name, or nothing; or what stands against it. -/
def locationMeant (m : Machine) (needsWhole needsNothing : Bool) (path : String) :
    Except Obstruction Location :=
  match canonical? m.disk m.directory path, m.reach path with
  | none, _ => .error .endlessLinks
  | some location, .ok _ => .ok location
  | some location, .error why =>
    if path.isEmpty then .error .missing
    else if needsNothing then .ok location
    else if needsWhole then .error why
    else
      match m.disk.at? location, m.disk.at? location.dropLast with
      | some _, _ => .error why
      | none, some (.directory _) => .ok location
      | none, some _ => .error .notDirectory
      | none, none => .error why

/-- Prints where links lead, or the locations that paths mean. -/
def readlink : Tool := withOptions readlinkForm fun o m =>
  if o.operands.isEmpty then complainOfOperands "readlink" "operand" m
  else
    let mark := if o.has 'n' && o.operands.length = 1 then "" else if o.has 'z' then "\x00" else "\n"
    forEach (fun path m =>
      let found : Except Obstruction String :=
        if o.has 'f' || o.has 'e' || o.has 'm' then
          (locationMeant m (o.has 'e') (o.has 'm') path).map Location.text
        else
          match standing? m path with
          | some (.link target) => .ok target
          | some _ => .error .badName
          | none => .error (absence m path)
      match found with
      | .ok text => (0, m.say (text ++ mark))
      | .error why => (1, if o.has 'v' then complainOf "readlink" path why m else m)) o.operands m

end ProjectCheck.Shell
