import ProjectCheck.Shell.Reading

/-!
# Comparing files

`cmp` finds the first byte in which two files differ.  `diff` finds the lines that have to be removed
from one file and added to make another of it; as many lines as possible are kept.
-/

namespace ProjectCheck.Shell

open ProjectCheck.Disk ProjectCheck.Text

/-! ## Bytes -/

/-- How many bytes two lists have in common at the front. -/
def commonLength : List UInt8 → List UInt8 → Nat
  | a :: as, b :: bs => if a == b then commonLength as bs + 1 else 0
  | _, _ => 0

/-- A number to the base eight, with blanks in front up to three places. -/
def octalOf (b : UInt8) : String :=
  let digits := Nat.toDigits 8 b.toNat
  String.ofList (List.replicate (3 - digits.length) ' ' ++ digits)

/-- What is said of arguments by the tools that compare. -/
def refuseToCompare (tool what : String) (status : Nat) (m : Machine) : Nat × Machine :=
  (status, m.complain (tool ++ ": " ++ what ++ "\n" ++ tool ++ ": Try '" ++ tool ++
    " --help' for more information."))

/-- The options of `cmp`. -/
def cmpForm : OptionForm :=
  { tool := "cmp", plain := ['b', 'l', 's'], valued := ['i', 'n']
    long := [("silent", 's'), ("quiet", 's'), ("verbose", 'l'), ("print-bytes", 'b'), ("bytes", 'n')]
    faultStatus := 2, usage := "cmp: Try 'cmp --help' for more information." }

/-- Prints where two files differ first, or all bytes in which they do. -/
def cmp : Tool := withOptions cmpForm fun o m =>
  let compared := fun (first second : String) =>
    match bytesNamed m first, bytesNamed m second with
    | .error why, _ => (2, complainPlainly "cmp" first why m)
    | _, .error why => (2, complainPlainly "cmp" second why m)
    | .ok a, .ok b =>
      let limit := (o.value? 'n').bind String.toNat?
      let a := limit.elim a a.take
      let b := limit.elim b b.take
      let same := commonLength a b
      let line := (a.take same).count 10 + 1
      let pairs := (a.zip b).zipIdx.filter fun (pair, _) => pair.1 != pair.2
      let shorter := if a.length < b.length then first else second
      let isBlankEnd := o.has 'l' || same = 0
      let atEnd := "cmp: EOF on " ++ shorter ++
        (if (Nat.min a.length b.length) = 0 then " which is empty"
          else " after byte " ++ toString (Nat.min a.length b.length) ++
            if isBlankEnd then ""
            else if (a.take same).getLast? == some 10 then ", line " ++ toString (line - 1)
            else ", in line " ++ toString line)
      if a == b then (0, m)
      else if o.has 's' then (1, m)
      else if o.has 'l' then
        let m := m.say (lined (pairs.map fun ((x, y), i) =>
          toString (i + 1) ++ " " ++ octalOf x ++ " " ++ octalOf y))
        (1, if a.length = b.length then m else m.complain atEnd)
      else
        match pairs with
        | ((x, y), i) :: _ =>
          let bytes := if o.has 'b' then " is " ++ octalOf x ++ " " ++ stringOfBytes [x] ++ " " ++
            octalOf y ++ " " ++ stringOfBytes [y] else ""
          (1, m.say (first ++ " " ++ second ++ " differ: byte " ++ toString (i + 1) ++ ", line " ++
            toString line ++ bytes ++ "\n"))
        | [] => (1, m.complain atEnd)
  match o.operands with
  | [] => refuseToCompare "cmp" "missing operand after 'cmp'" 2 m
  | [only] => compared only "-"
  | [first, second] => compared first second
  | _ :: _ :: extra :: _ => refuseToCompare "cmp" ("extra operand '" ++ extra ++ "'") 2 m

/-! ## Lines -/

/-- What becomes of a line. -/
inductive Change where
  | keep (line : List UInt8)
  | remove (line : List UInt8)
  | add (line : List UInt8)
deriving Repr, DecidableEq

/-- For a line in front of others and for each end of a second list, how many lines can be kept of
them; `below` has these numbers for the others alone. -/
def keptCounts (same : List UInt8 → List UInt8 → Bool) (line : List UInt8) :
    List (List UInt8) → (below : List Nat) → List Nat
  | b :: bs, d :: below =>
    let rest := keptCounts same line bs below
    (if same line b then below.headD 0 + 1 else Nat.max d (rest.headD 0)) :: rest
  | _, _ => [0]

/-- For each end of a list of lines, the numbers of lines that can be kept. -/
def keptTable (same : List UInt8 → List UInt8 → Bool) (bs : List (List UInt8)) :
    List (List UInt8) → List (List Nat)
  | [] => [List.replicate (bs.length + 1) 0]
  | a :: as =>
    let rows := keptTable same bs as
    keptCounts same a bs (rows.headD []) :: rows

/-- The changes that make one list of lines of another, as `table` has them. -/
def changesIn (same : List UInt8 → List UInt8 → Bool) (table : Array (Array Nat)) :
    Nat → (i j : Nat) → List (List UInt8) → List (List UInt8) → List Change
  | 0, _, _, _, _ => []
  | _ + 1, _, _, [], bs => bs.map .add
  | _ + 1, _, _, as, [] => as.map .remove
  | fuel + 1, i, j, a :: as, b :: bs =>
    let count := fun (i j : Nat) => (table[i]?.bind (·[j]?)).getD 0
    if same a b then .keep a :: changesIn same table fuel (i + 1) (j + 1) as bs
    else if count (i + 1) j ≥ count i (j + 1) then
      .remove a :: changesIn same table fuel (i + 1) j as (b :: bs)
    else .add b :: changesIn same table fuel i (j + 1) (a :: as) bs

/-- The changes that make one list of lines of another. -/
def changesBetween (same : List UInt8 → List UInt8 → Bool) (as bs : List (List UInt8)) :
    List Change :=
  let table := ((keptTable same bs as).map List.toArray).toArray
  changesIn same table (as.length + bs.length + 1) 0 0 as bs

/-- Neighbouring changes, with how many lines of both files stand before them. -/
structure Hunk where
  before : Nat
  beforeNew : Nat
  removed : List (List UInt8)
  added : List (List UInt8)
deriving Repr, DecidableEq

/-- The neighbouring changes behind some lines of both files; `open_` is what has begun. -/
def hunksFrom (i j : Nat) (open_ : Option Hunk) : List Change → List Hunk
  | [] => open_.toList
  | .keep _ :: rest => open_.toList ++ hunksFrom (i + 1) (j + 1) none rest
  | .remove line :: rest =>
    let h := open_.getD ⟨i, j, [], []⟩
    hunksFrom (i + 1) j (some { h with removed := h.removed ++ [line] }) rest
  | .add line :: rest =>
    let h := open_.getD ⟨i, j, [], []⟩
    hunksFrom i (j + 1) (some { h with added := h.added ++ [line] }) rest

/-- Lines behind a sign; a line without a line end is followed by a remark. -/
def signedLines (sign : String) (lines : List (List UInt8)) : List UInt8 :=
  lines.flatMap fun line =>
    bytesOf sign ++ ended line ++
      if line.getLast? == some 10 then [] else bytesOf "\\ No newline at end of file\n"

/-- The numbers of the first and the last of some lines behind others, or the number before them if
there are none. -/
def lineRange (before count : Nat) : String :=
  if count = 0 then toString before
  else if count = 1 then toString (before + 1)
  else toString (before + 1) ++ "," ++ toString (before + count)

/-- How a hunk is printed. -/
def Hunk.shown (h : Hunk) : List UInt8 :=
  let letter := if h.removed.isEmpty then "a" else if h.added.isEmpty then "d" else "c"
  bytesOf (lineRange h.before h.removed.length ++ letter ++ lineRange h.beforeNew h.added.length ++
      "\n") ++
    signedLines "< " h.removed ++
    (if letter == "c" then bytesOf "---\n" else []) ++ signedLines "> " h.added

/-- Where some lines begin and how many they are, as it is shown where lines around changes are
shown. -/
def spanShown (before count : Nat) : String :=
  if count = 1 then toString (before + 1)
  else toString (if count = 0 then before else before + 1) ++ "," ++ toString count

/-- Changes with a number of kept lines around them, in blocks between which other lines are kept.
`held` are the kept lines before, the last first, and `current` is the block that has begun, in
reverse order, with the number of kept lines at its end. -/
def blocksOf (around : Nat) (i j : Nat) (held : List (List UInt8))
    (current : Option (Nat × Nat × List Change × Nat)) : List Change → List (Nat × Nat × List Change)
  | [] =>
    match current with
    | none => []
    | some (i, j, block, kept) => [(i, j, (block.drop (kept - around)).reverse)]
  | .keep line :: rest =>
    match current with
    | none => blocksOf around (i + 1) (j + 1) ((line :: held).take around) none rest
    | some (i', j', block, kept) =>
      if kept < 2 * around then
        blocksOf around (i + 1) (j + 1) [] (some (i', j', .keep line :: block, kept + 1)) rest
      else
        let lines := block.take around |>.filterMap fun c => match c with
          | .keep line => some line
          | _ => none
        (i', j', (block.drop (kept - around)).reverse) ::
          blocksOf around (i + 1) (j + 1) ((line :: lines).take around) none rest
  | change :: rest =>
    let isRemoval := match change with
      | .remove _ => true
      | _ => false
    let (i', j', block) := match current with
      | some (i', j', block, _) => (i', j', block)
      | none => (i - held.length, j - held.length, held.map .keep)
    blocksOf around (if isRemoval then i + 1 else i) (if isRemoval then j else j + 1) []
      (some (i', j', change :: block, 0)) rest

/-- How a block of changes is printed with the kept lines around them: what is removed stands before
what is added. -/
def blockShown (i j : Nat) (block : List Change) : List UInt8 :=
  let old := block.filter fun c => match c with
    | .add _ => false
    | _ => true
  let new := block.filter fun c => match c with
    | .remove _ => false
    | _ => true
  let flush := fun (removed added : List (List UInt8)) =>
    signedLines "-" removed ++ signedLines "+" added
  let (text, removed, added) := block.foldl
    (fun ((text : List UInt8), (removed : List (List UInt8)), (added : List (List UInt8))) c =>
      match c with
      | .keep line => (text ++ flush removed added ++ signedLines " " [line], [], [])
      | .remove line => (text, removed ++ [line], added)
      | .add line => (text, removed, added ++ [line])) ([], [], [])
  bytesOf ("@@ -" ++ spanShown i old.length ++ " +" ++ spanShown j new.length ++ " @@\n") ++ text ++
    flush removed added

/-! ## The tool -/

/-- A line as it is compared. -/
def comparedLine (o : Options) (line : List UInt8) : List UInt8 :=
  let isGap := fun (b : UInt8) => b == 32 || (9 ≤ b && b ≤ 13)
  let line := if o.has 'i' then line.map fun b => if 65 ≤ b && b ≤ 90 then b + 32 else b else line
  if o.has 'w' then line.filter fun b => !isGap b
  else if o.has 'b' then
    let parts := (line.splitBy fun a b => isGap a == isGap b).map fun part =>
      if part.all isGap then [32] else part
    (if parts.getLast? == some [32] then parts.dropLast else parts).flatten
  else line

/-- The time that is shown for a file. -/
def shownTime : String :=
  "1970-01-01 00:00:00.000000000 +0000"

/-- Compares two contents that have names. -/
def compareContents (o : Options) (title first second : String) (a b : List UInt8) (m : Machine) :
    Nat × Machine :=
  let changes := changesBetween (fun x y => comparedLine o x == comparedLine o y)
    (byteLines a) (byteLines b)
  let isBlank := fun (lines : List (List UInt8)) => o.has 'B' && lines.all (· == [10])
  let hunks := (hunksFrom 0 0 none changes).filter fun h => !(isBlank h.removed && isBlank h.added)
  if hunks.isEmpty then
    (0, if o.has 's' then m.say ("Files " ++ first ++ " and " ++ second ++ " are identical\n") else m)
  else if o.has 'q' then (1, m.say ("Files " ++ first ++ " and " ++ second ++ " differ\n"))
  else if a.contains 0 || b.contains 0 then
    (1, m.say ("Binary files " ++ first ++ " and " ++ second ++ " differ\n"))
  else if o.has 'u' || o.has 'U' then
    let around := ((o.value? 'U').bind String.toNat?).getD 3
    let names := match o.values 'L' with
      | [x, y] => (x, y)
      | [x] => (x, second ++ "\t" ++ shownTime)
      | _ => (first ++ "\t" ++ shownTime, second ++ "\t" ++ shownTime)
    let blocks := blocksOf around 0 0 [] none changes
    (1, m.print (bytesOf (title ++ "--- " ++ names.1 ++ "\n+++ " ++ names.2 ++ "\n") ++
      blocks.flatMap fun (i, j, block) => blockShown i j block))
  else (1, m.print (bytesOf title ++ hunks.flatMap Hunk.shown))

/-- Compares what stands at two places; `depth` bounds how far directories are gone through. -/
def compareNodes (o : Options) (lead : String) : (depth : Nat) → (isTop : Bool) →
    (first second : String) → Option Node → Option Node → Machine → Nat × Machine
  | 0, _, _, _, _, _, m => (0, m)
  | depth + 1, isTop, first, second, a, b, m =>
    let isAbsent := fun (n : Option Node) => n.isNone
    match a, b with
    | some (.directory as), some (.directory bs) =>
      if !isTop && !o.has 'r' then
        (0, m.say ("Common subdirectories: " ++ first ++ " and " ++ second ++ "\n"))
      else
        let names := ((as.map (·.1) ++ bs.map (·.1)).eraseDups).mergeSort fun x y => decide (x ≤ y)
        names.foldl (fun ((status : Nat), (m : Machine)) name =>
          let x := Table.get? name as
          let y := Table.get? name bs
          let (own, m) :=
            if isAbsent y && !o.has 'N' then (1, m.say ("Only in " ++ first ++ ": " ++ name ++ "\n"))
            else if isAbsent x && !o.has 'N' then
              (1, m.say ("Only in " ++ second ++ ": " ++ name ++ "\n"))
            else
              compareNodes o lead depth false (first ++ "/" ++ name) (second ++ "/" ++ name) x y m
          (Nat.max status own, m)) (0, m)
    | _, _ =>
      let content := fun (n : Option Node) => (n.bind Node.content?).getD []
      let title := if isTop then "" else lead ++ " " ++ first ++ " " ++ second ++ "\n"
      compareContents o title first second (content a) (content b) m

/-- The options of `diff`. -/
def diffForm : OptionForm :=
  { tool := "diff", plain := "aBbcdeEilnNpPqrstTuvwyZ".toList
    valued := ['C', 'D', 'F', 'I', 'L', 'S', 'U', 'W', 'x', 'X']
    long := [("brief", 'q'), ("report-identical-files", 's'), ("recursive", 'r'), ("unified", 'u'),
      ("ignore-case", 'i'), ("ignore-all-space", 'w'), ("ignore-space-change", 'b'),
      ("ignore-blank-lines", 'B'), ("new-file", 'N'), ("label", 'L'), ("text", 'a'),
      ("normal", 'n')]
    faultStatus := 2, usage := "diff: Try 'diff --help' for more information." }

/-- Prints the lines in which two files differ, or the files in which two directories do. -/
def diff : Tool := fun args m =>
  withOptions diffForm (fun o m =>
    match o.operands with
    | [] => refuseToCompare "diff" "missing operand after 'diff'" 2 m
    | [only] => refuseToCompare "diff" ("missing operand after '" ++ only ++ "'") 2 m
    | first :: second :: [] =>
      let isDirectory := fun (path : String) => (m.reach? path).any Node.isDirectory
      let lastName := fun (path : String) => ((pieces '/' path.toList).getLast?).getD []
      let below := fun (directory path : String) => directory ++ "/" ++ String.ofList (lastName path)
      let first' := if isDirectory first && !isDirectory second then below first second else first
      let second' := if isDirectory second && !isDirectory first then below second first else second
      let node := fun (path : String) =>
        if isDirectory path then .ok (m.reach? path)
        else (bytesNamed m path).map fun bytes => some (Node.file bytes)
      let missing := [first', second'].filterMap fun path =>
        match node path with
        | .ok _ => none
        | .error why => some (path, why)
      match node first', node second' with
      | .ok a, .ok b =>
        let lead := " ".intercalate ("diff" :: args.filter fun arg => !o.operands.contains arg)
        compareNodes o lead 1000 true first' second' a b m
      | _, _ => (2, missing.foldl (fun m (path, why) => complainPlainly "diff" path why m) m)
    | _ :: _ :: extra :: _ => refuseToCompare "diff" ("extra operand '" ++ extra ++ "'") 2 m) args m

end ProjectCheck.Shell
