import Mathlib.Data.List.Forall2
import ProjectCheck.Proofs.Shell.Quoting
import ProjectCheck.Scan.Command

/-!
# What a shell makes of the scan commands

The script of a scan command has the same tokens whatever the arguments are, up to some places where
a whole word is an argument.  `batchPieces` and `treePieces` are the tokens with holes at these
places, and `IsScript` says that a command is read as a shell with a script, and the script as
pieces whose holes are filled with words that say the arguments.  The main statement is
`commands_fixed_up_to_words`.

The pieces are stated next to the parts of the commands (`FileSearch.pieces` for a search), and each
part reads as its pieces do.
-/

namespace ProjectCheck.Scan

open ProjectCheck.Shell

/-! ## Scripts with holes -/

/-- A place where a word of a script is an argument. -/
inductive Hole where
  | root
  /-- A directory in the source directory. -/
  | below (directory : String)
  | count
  | opening
  | unreadable
  | closing
deriving Repr, DecidableEq

/-- What is to stand in a hole. -/
def Hole.text (root : String) (maxFiles : Int) (framing : Framing) : Hole → String
  | .root => root
  | .below directory => root ++ "/" ++ directory
  | .count => toString maxFiles
  | .opening => framing.opening
  | .unreadable => framing.unreadable
  | .closing => framing.closing

/-- A token of a script, or a hole. -/
inductive Piece where
  | fixed (t : Token)
  | hole (h : Hole)
deriving Repr, DecidableEq

namespace Piece

/-- A word that is written bare. -/
def bare (s : String) : Piece :=
  .fixed (.word (.ofBare s.toList))

/-- A word in quotes. -/
def inQuotes (s : String) : Piece :=
  .fixed (.word (.quote :: s.toList.map .quoted))

/-- A character that a backslash takes the meaning from. -/
def escaped (c : Char) : Piece :=
  .fixed (.word [.quoted c])

/-- The value of a variable as one word. -/
def valueOf (name : String) : Piece :=
  .fixed (.word [.quote, .expansion name.toList true])

def operator (o : Operator) : Piece :=
  .fixed (.operator o)

/-- The token of a piece where holes are filled with some words. -/
def token (filling : Hole → Word) : Piece → Token
  | .fixed t => t
  | .hole h => .word (filling h)

end Piece

/-- A command hands a script to a shell, and the tokens of the script are some pieces with the texts
of the holes as words. -/
def IsScript (command : String) (pieces : List Piece) (text : Hole → String) : Prop :=
  ∃ (argument : Word) (script : String) (filling : Hole → Word),
    tokens command = [.word (.ofBare "bash".toList), .word (.ofBare "-c".toList), .word argument] ∧
    argument.literal? = some script.toList ∧
    (∀ hole, (filling hole).literal? = some (text hole).toList) ∧
    tokens script = pieces.map (·.token filling)

/-! ## The pieces of the commands -/

/-- The test that a file name ends in one of some extensions. -/
def namePieces (extensions : List String) : List Piece :=
  .escaped '(' ::
    [.bare "-o"].intercalate (extensions.map fun e => [.bare "-name", .inQuotes ("*" ++ e)]) ++
    [.escaped ')']

/-- The pieces of a search below the directories in some holes. -/
def FileSearch.pieces (f : FileSearch) (holes : List Hole) : List Piece :=
  List.flatten
    [ [.bare "find"], holes.map .hole
    , if f.shallow then [.bare "-maxdepth", .bare "1"] else []
    , [.bare "-type", .bare "f"], namePieces f.extensions
    , f.excludedNames.flatMap fun glob => [.bare "!", .bare "-name", .inQuotes glob]
    , f.excludedPaths.flatMap fun glob => [.bare "!", .bare "-path", .inQuotes glob]
    , [.operator (.redirect (some 2) .output), .bare "/dev/null"] ]

/-- The searches by which files are selected, with the holes that say where. -/
def selectionSearches : List (FileSearch × List Hole) :=
  ({ roots := [], shallow := true, excludedNames }, [.root]) ::
    priorityDirectories.map (fun group =>
      ({ roots := [], excludedNames
         excludedPaths := if group.contains "components" then [interfaceLibraryPaths] else [] },
        group.map .below)) ++
    [({ roots := [], excludedNames, excludedPaths }, [.root])]

/-- The pieces of the script that selects files. -/
def selectionPieces : List Piece :=
  [.operator .semicolon].intercalate (selectionSearches.map fun (f, holes) => f.pieces holes)

/-- The pieces of the script that prints files. -/
def batchPieces : List Piece :=
  List.flatten
    [ [.operator .opening], selectionPieces, [.operator .closing, .operator .pipe]
    , [.bare "awk", .inQuotes "!seen[$0]++", .operator .pipe]
    , [.bare "head", .bare "-n", .hole .count, .operator .pipe]
    , [.bare "while", .bare "IFS=", .bare "read", .bare "-r", .bare "file", .operator .semicolon]
    , [.bare "do", .bare "echo", .hole .opening, .operator .semicolon]
    , [.bare "echo", .valueOf "file", .operator .semicolon]
    , [.bare "cat", .valueOf "file", .operator (.redirect (some 2) .output), .bare "/dev/null"]
    , [.operator .orElse, .bare "echo", .hole .unreadable, .operator .semicolon]
    , [.bare "echo", .hole .closing, .operator .semicolon, .bare "done"] ]

/-- The pieces of the script that lists files. -/
def treePieces : List Piece :=
  FileSearch.pieces { roots := [] } [.root]

/-! ## Reading pieces -/

section

variable (text : Hole → String)

/-- A text reads as some pieces whose holes are filled with texts as words. -/
def Says (s : String) (pieces : List Piece) : Prop :=
  Reads s (pieces.map (·.token fun hole => spelling (text hole).toList))

variable {text}

variable (text) in
/-- A text ends a word and reads as some pieces behind it. -/
def Parts (joint : String) (between : List Piece) : Prop :=
  Joins joint (between.map (·.token fun hole => spelling (text hole).toList))

lemma says_bare (s : String) (h : isPlainWord s = true) : Says text s [.bare s] :=
  reads_of_isPlainWord h

lemma says_inQuotes {s : String} (hplain : s.toList.all isPlainInQuotes = true) :
    Says text (pattern s) [.inQuotes s] := by
  apply Spells.reads
  simpa [pattern] using spells_doubleQuotes (List.all_eq_true.mp hplain)

lemma says_hole (hole : Hole) : Says text (quote (text hole)) [.hole hole] :=
  reads_quote (text hole)

lemma Says.join {s joint more : String} {pieces between others : List Piece}
    (h : Says text s pieces) (hjoint : Parts text joint between) (hmore : Says text more others) :
    Says text (s ++ joint ++ more) (pieces ++ between ++ others) := by
  simpa [Says] using Reads.join h hjoint hmore

lemma Says.intercalate {joint : String} {between : List Piece} (hjoint : Parts text joint between)
    {texts : List String} {piecess : List (List Piece)}
    (h : List.Forall₂ (Says text) texts piecess) (hne : texts ≠ []) :
    Says text (joint.intercalate texts) (between.intercalate piecess) := by
  induction h with
  | nil => exact absurd rfl hne
  | cons hfirst hrest ih =>
    cases hrest with
    | nil => simpa using hfirst
    | cons hsecond hothers =>
      rw [String.intercalate_cons_cons, List.intercalate_cons_cons]
      exact hfirst.join hjoint (ih (by simp))

lemma parts_blank : Parts text " " [] :=
  joins_blank

lemma parts_or : Parts text " -o " [.bare "-o"] := by
  have hwritten : " -o " = " " ++ "-o" ++ " " := by decide
  have hword : Says text "-o" [.bare "-o"] := says_bare "-o" (by decide)
  rw [hwritten]
  exact joins_blank.around hword joins_blank

lemma parts_semicolon : Parts text "; " [.operator .semicolon] := by
  intro last s
  have hmark : operator? ';' (' ' :: s) = some (.semicolon, 0) := rfl
  simp [tokensAfter_of_operator hmark, tokensAfter_blank, closeWord, Piece.operator, Piece.token]

lemma parts_pipe : Parts text " | " [.operator .pipe] := by
  intro last s
  have hmark : operator? '|' (' ' :: s) = some (.pipe, 0) := rfl
  simp [tokensAfter_of_operator hmark, tokensAfter_blank, closeWord, Piece.operator, Piece.token]

lemma parts_orElse : Parts text " || " [.operator .orElse] := by
  intro last s
  have hmark : operator? '|' ('|' :: ' ' :: s) = some (.orElse, 1) := rfl
  simp [tokensAfter_of_operator hmark, tokensAfter_blank, closeWord, Piece.operator, Piece.token]

lemma parts_closing : Parts text ") | " [.operator .closing, .operator .pipe] := by
  intro last s
  have hclosing : operator? ')' (' ' :: '|' :: ' ' :: s) = some (.closing, 0) := rfl
  have hpipe : operator? '|' (' ' :: s) = some (.pipe, 0) := rfl
  simp [tokensAfter_of_operator hclosing, tokensAfter_of_operator hpipe, tokensAfter_blank, closeWord,
    Piece.operator, Piece.token]

lemma Says.opened {s : String} {pieces : List Piece} (h : Says text s pieces) :
    Says text ("(" ++ s) (.operator .opening :: pieces) := by
  obtain ⟨front, last, heq, hreads⟩ := h
  refine ⟨.operator .opening :: front, last, by rw [List.map_cons, heq]; rfl, fun u => ?_⟩
  have hopening : operator? '(' (s.toList ++ u) = some (.opening, 0) := rfl
  simp [tokensAfter_of_operator hopening, closeWord, hreads]

/-- The errors of a command are thrown away. -/
lemma says_silenced :
    Says text "2>/dev/null" [.operator (.redirect (some 2) .output), .bare "/dev/null"] := by
  refine ⟨[.operator (.redirect (some 2) .output)], .ofBare "/dev/null".toList, rfl, fun s => ?_⟩
  simp [tokensAfter, operator?, part, closeWith, streamNumber?, backquote, Word.ofBare]

lemma says_escaped (c : Char) (h : c ≠ '\n') :
    Says text (String.ofList ['\\', c]) [.escaped c] :=
  Spells.reads (by simpa using spells_escaped h)

lemma says_file : Says text "\"$file\"" [.valueOf "file"] := by
  apply Spells.reads
  intro word s
  have hname : 'f' ∉ namesOfOneChar := by decide
  have hvalue : expansion? true ("file\"".toList ++ s) = some (.ok ("file".toList, 4)) := by
    simp [expansion?, hname, isNameChar]
  have hend : quotedGlyphs .string ('"' :: s) = .ok ([], 1) := by simp [quotedGlyphs]
  have hquoted : quotedGlyphs .string ('$' :: ("file\"".toList ++ s)) =
      .ok ([.expansion "file".toList true], 6) := by
    rw [quotedGlyphs, hvalue]
    simp [hend]
  have hpart : part '"' ('$' :: ("file\"".toList ++ s)) =
      .ok ([.quote, .expansion "file".toList true], 6) := by
    rw [part, hquoted]
    rfl
  have hword := tokensAfter_of_part (by decide) (by decide) (by simp) hpart word
  simpa using hword

lemma says_append {texts more : List String} {piecess others : List (List Piece)}
    (h : List.Forall₂ (Says text) texts piecess) (hmore : List.Forall₂ (Says text) more others) :
    List.Forall₂ (Says text) (texts ++ more) (piecess ++ others) :=
  List.rel_append h hmore

lemma says_spaced {texts : List String} {piecess : List (List Piece)}
    (h : List.Forall₂ (Says text) texts piecess) (hne : texts ≠ []) :
    Says text (spaced texts) piecess.flatten := by
  have hnil : ([] : List Piece).intercalate piecess = piecess.flatten := by
    clear h
    induction piecess with
    | nil => rfl
    | cons first rest ih => cases rest <;> simp_all [List.intercalate_cons_cons]
  rw [spaced, ← hnil]
  exact Says.intercalate parts_blank h hne

/-! ## Searches -/

lemma says_each {α : Type} {xs : List α} {written : α → String} {pieces : α → List Piece}
    (h : ∀ x ∈ xs, Says text (written x) (pieces x)) :
    List.Forall₂ (Says text) (xs.map written) (xs.map pieces) := by
  simpa only [List.forall₂_map_left_iff, List.forall₂_map_right_iff, List.forall₂_same] using h

lemma says_nameTest {extensions : List String} (hne : extensions ≠ [])
    (hplain : ∀ e ∈ extensions, e.toList.all isPlainInQuotes = true) :
    Says text (nameTest extensions) (namePieces extensions) := by
  have hname : ∀ e ∈ extensions,
      Says text ("-name " ++ pattern ("*" ++ e)) [.bare "-name", .inQuotes ("*" ++ e)] := by
    intro e he
    have hglob : ("*" ++ e).toList.all isPlainInQuotes = true := by
      simp [hplain e he, isPlainInQuotes, marksInQuotes, backquote]
    exact (says_bare "-name" (by decide)).join parts_blank (says_inQuotes hglob)
  have hnames := Says.intercalate parts_or (says_each hname) (by simpa using hne)
  have hopened := (says_escaped '(' (by decide)).join parts_blank hnames
  have hclosed := hopened.join parts_blank (says_escaped ')' (by decide))
  have hwritten : nameTest extensions = String.ofList ['\\', '('] ++ " " ++
      " -o ".intercalate (extensions.map fun e => "-name " ++ pattern ("*" ++ e)) ++ " " ++
      String.ofList ['\\', ')'] := by
    apply String.toList_inj.mp
    simp [nameTest]
  rw [hwritten]
  simpa [namePieces] using hclosed

/-- A test that leaves out what matches a pattern. -/
lemma says_exclusion (test : String) {glob : String} (htest : isPlainWord test = true)
    (hglob : glob.toList.all isPlainInQuotes = true) :
    Says text ("!" ++ " " ++ test ++ " " ++ pattern glob) [.bare "!", .bare test, .inQuotes glob] :=
  ((says_bare "!" (by decide)).join parts_blank (says_bare test htest)).join parts_blank
    (says_inQuotes hglob)

/-- There is an extension to look for, and the patterns of a search mean nothing between double
quotes. -/
def FileSearch.IsPlain (f : FileSearch) : Prop :=
  f.extensions ≠ [] ∧
    ∀ glob ∈ f.extensions ++ f.excludedNames ++ f.excludedPaths,
      glob.toList.all isPlainInQuotes = true

instance (f : FileSearch) : Decidable f.IsPlain :=
  inferInstanceAs (Decidable (_ ∧ _))

/-- The command of a search reads as the pieces of the search, with the directories in the holes. -/
theorem says_command {f : FileSearch} (hplain : f.IsPlain) (holes : List Hole) :
    Says text (FileSearch.command { f with roots := holes.map text }) (f.pieces holes) := by
  obtain ⟨hne, hglobs⟩ := hplain
  have hfind : Says text "find" [.bare "find"] := says_bare "find" (by decide)
  have hdepth : List.Forall₂ (Says text) (if f.shallow then ["-maxdepth" ++ " " ++ "1"] else [])
      (if f.shallow then [[.bare "-maxdepth"] ++ [] ++ [.bare "1"]] else []) := by
    split
    · exact .cons ((says_bare "-maxdepth" (by decide)).join parts_blank
        (says_bare "1" (by decide))) .nil
    · exact .nil
  have htype : Says text ("-type" ++ " " ++ "f") ([.bare "-type"] ++ [] ++ [.bare "f"]) :=
    (says_bare "-type" (by decide)).join parts_blank (says_bare "f" (by decide))
  have htest : Says text (nameTest f.extensions) (namePieces f.extensions) :=
    says_nameTest hne fun e he => hglobs e (by simp [he])
  have hroots := says_each fun hole (_ : hole ∈ holes) => (says_hole hole : Says text _ _)
  have hnames := says_each fun glob (h : glob ∈ f.excludedNames) =>
    (says_exclusion "-name" (by decide) (hglobs glob (by simp [h])) : Says text _ _)
  have hpaths := says_each fun glob (h : glob ∈ f.excludedPaths) =>
    (says_exclusion "-path" (by decide) (hglobs glob (by simp [h])) : Says text _ _)
  have hwhere := says_append (says_append (.cons hfind .nil) hroots) hdepth
  have hwhich := says_append (says_append hwhere (.cons htype (.cons htest .nil))) hnames
  have hsays := says_spaced (says_append (says_append hwhich hpaths) (.cons says_silenced .nil))
    (by simp)
  have hwritten : FileSearch.command { f with roots := holes.map text } = spaced
      (["find"] ++ holes.map (fun hole => quote (text hole)) ++
      (if f.shallow then ["-maxdepth" ++ " " ++ "1"] else []) ++
      ["-type" ++ " " ++ "f", nameTest f.extensions] ++
      f.excludedNames.map (fun glob => "!" ++ " " ++ "-name" ++ " " ++ pattern glob) ++
      f.excludedPaths.map (fun glob => "!" ++ " " ++ "-path" ++ " " ++ pattern glob) ++
      ["2>/dev/null"]) := by
    rw [FileSearch.command, List.map_map]
    rfl
  rw [hwritten]
  convert hsays using 1
  cases hs : f.shallow <;>
    simp [FileSearch.pieces, hs, List.flatMap_def, List.map_eq_flatMap (f := Piece.hole)]

end

/-! ## Whole scripts -/

/-- The digits of a number and its sign mean nothing to a shell, so it may stand as it is. -/
lemma quote_toString (n : Int) : quote (toString n) = toString n := by
  have hdigits : ∀ m, (Nat.toDigits 10 m).all isHarmless = true := by
    intro m
    rw [List.all_eq_true]
    intro c hc
    have hdigit := Nat.isDigit_of_mem_toDigits (by decide) (by decide) hc
    simp [isHarmless, Char.isAlphanum, hdigit]
  cases n with
  | ofNat m =>
    have hwritten : (toString (Int.ofNat m)).toList = Nat.toDigits 10 m := by
      simp [toString, Int.repr, Nat.repr]
    exact quote_of_isHarmless (by rw [hwritten]; exact Nat.toDigits_ne_nil)
      (by rw [hwritten]; exact hdigits m)
  | negSucc m =>
    have hwritten : (toString (Int.negSucc m)).toList = '-' :: Nat.toDigits 10 (m + 1) := by
      simp [toString, Int.repr, Nat.repr]
    exact quote_of_isHarmless (by rw [hwritten]; simp)
      (by rw [hwritten, List.all_cons, hdigits]; decide)

section

variable (root : String) (maxFiles : Int) (framing : Framing)

lemma says_tree : Says (Hole.text root maxFiles framing)
    (FileSearch.command { roots := [root] }) treePieces :=
  says_command (f := { roots := [] }) (by decide) [.root]

lemma says_selection :
    Says (Hole.text root maxFiles framing) (selectionScript root) selectionPieces := by
  have hplain : ∀ search ∈ selectionSearches, search.1.IsPlain := by decide
  have hsearches : selection root Path.sourceExtensions = selectionSearches.map fun (f, holes) =>
      { f with roots := holes.map (Hole.text root maxFiles framing) } := rfl
  rw [selectionScript, hsearches, List.map_map]
  exact Says.intercalate parts_semicolon
    (says_each fun search h => says_command (hplain search h) search.2) (by simp [selectionSearches])

lemma says_echo {s : String} {pieces : List Piece}
    (h : Says (Hole.text root maxFiles framing) s pieces) :
    Says (Hole.text root maxFiles framing) ("echo" ++ " " ++ s) ([.bare "echo"] ++ [] ++ pieces) :=
  (says_bare "echo" (by decide)).join parts_blank h

lemma exists_batchScript : ∃ script, batchCommand root maxFiles framing = inShell script ∧
    Says (Hole.text root maxFiles framing) script batchPieces := by
  have hselect := says_selection root maxFiles framing
  have hnew : Says (Hole.text root maxFiles framing) "'!seen[$0]++'" [.inQuotes "!seen[$0]++"] :=
    Spells.reads (@spells_singleQuotes "!seen[$0]++".toList (by simp))
  have hunique := (says_bare "awk" (by decide)).join parts_blank hnew
  have hcount : Says (Hole.text root maxFiles framing) (toString maxFiles) [.hole .count] := by
    have hquoted : Says (Hole.text root maxFiles framing) (quote (toString maxFiles))
        [.hole .count] := says_hole .count
    rwa [quote_toString] at hquoted
  have hfirst := ((says_bare "head" (by decide)).join parts_blank
    (says_bare "-n" (by decide))).join parts_blank hcount
  have hfile : Says (Hole.text root maxFiles framing) "file" [.bare "file"] :=
    says_bare "file" (by decide)
  have hread := ((((says_bare "while" (by decide)).join parts_blank
    (says_bare "IFS=" (by decide))).join parts_blank
    (says_bare "read" (by decide))).join parts_blank
    (says_bare "-r" (by decide))).join parts_blank hfile
  have hopening := (says_bare "do" (by decide)).join parts_blank
    (says_echo root maxFiles framing (says_hole .opening))
  have hname := says_echo root maxFiles framing says_file
  have hcat : Says (Hole.text root maxFiles framing) "cat" [.bare "cat"] :=
    says_bare "cat" (by decide)
  have hcontent := (hcat.join parts_blank says_file).join parts_blank says_silenced
  have hunreadable := says_echo root maxFiles framing (says_hole .unreadable)
  have hclosing := says_echo root maxFiles framing (says_hole .closing)
  have hselected := ((hselect.join parts_closing hunique).join parts_pipe hfirst).join parts_pipe
    hread
  have hprinted := ((hopening.join parts_semicolon hname).join parts_semicolon hcontent).join
    parts_orElse hunreadable
  have hall := ((hselected.join parts_semicolon hprinted).join parts_semicolon hclosing).join
    parts_semicolon (says_bare "done" (by decide))
  refine ⟨_, rfl, ?_⟩
  convert hall.opened using 1
  · apply String.toList_inj.mp
    simp [Hole.text]
  · simp [batchPieces]

end

lemma tokens_inShell (script : String) : tokens (inShell script) =
    [.word (.ofBare "bash".toList), .word (.ofBare "-c".toList),
      .word (spelling script.toList)] := by
  have hshell : Reads "bash" [.word (.ofBare "bash".toList)] := reads_of_isPlainWord (by decide)
  have hoption : Reads "-c" [.word (.ofBare "-c".toList)] := reads_of_isPlainWord (by decide)
  exact ((hshell.join joins_blank hoption).join joins_blank (reads_quote script)).tokens_eq

/-- A script is one argument of the shell that it is handed to, and there it reads as its pieces. -/
lemma isScript_of_says {script : String} {pieces : List Piece} {text : Hole → String}
    (h : Says text script pieces) : IsScript (inShell script) pieces text :=
  ⟨spelling script.toList, script, fun hole => spelling (text hole).toList, tokens_inShell script,
    literal?_spelling _, fun _ => literal?_spelling _, Reads.tokens_eq h⟩

/-- The scan commands hand a script to a shell whose tokens are fixed, but for whole words that say
the source directory, the directories in it that matter most, the number of files and the
delimiters, each as it is and in its own place.  So whatever these texts hold, they cannot end the
word that they stand in, join it to another, or be anything but a word. -/
theorem commands_fixed_up_to_words (root : String) (maxFiles : Int) (framing : Framing) :
    IsScript (batchCommand root maxFiles framing) batchPieces (Hole.text root maxFiles framing) ∧
      IsScript (treeCommand root) treePieces (Hole.text root maxFiles framing) := by
  constructor
  · obtain ⟨script, hcommand, hsays⟩ := exists_batchScript root maxFiles framing
    rw [hcommand]
    exact isScript_of_says hsays
  · exact isScript_of_says (says_tree root maxFiles framing)

end ProjectCheck.Scan
