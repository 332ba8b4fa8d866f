import ProjectCheck.Proofs.Scan.Framed

/-!
# Streams read back

Decoding against printing, in both orders.

Files that are printed and then decoded come back, also if what was printed was cut off anywhere:
exactly the files whose closing was printed to its end are there (`decoding_undoes_printing`).  The
run over the files is `blocksIn_truncated`, by induction on them.  At each file the cut lies before
the end of the closing, right behind it, or behind the line feed that ends it, and then the rest of
the cut is a prefix of what is printed for the other files.

Files that are decoded and then printed come back as well, whatever was decoded at first
(`printing_undoes_decoding`).  Being cut out of a text at the first closing after an opening, with
no further opening in between, makes a file well framed (`isWellFramed_of_mem_decode`), so the same
run applies to it.
-/

namespace ProjectCheck.Scan

open ProjectCheck.Text

variable {framing : Framing}

/-! ## Printing -/

/-- What is printed for a list of files: each ends its line. -/
def printed (framing : Framing) (files : List PrintedFile) : String :=
  String.join (files.map fun f => f.throughClosing framing ++ "\n")

/-- The files whose closing lies completely in the first `room` characters of what is printed. -/
def closedWithin (framing : Framing) : Nat → List PrintedFile → List PrintedFile
  | _, [] => []
  | room, f :: rest =>
    if (f.throughClosing framing).length ≤ room then
      f :: closedWithin framing (room - ((f.throughClosing framing).length + 1)) rest
    else []

lemma toList_printed_cons (f : PrintedFile) (rest : List PrintedFile) :
    (printed framing (f :: rest)).toList =
      (f.throughClosing framing).toList ++ '\n' :: (printed framing rest).toList := by
  simp [printed]

lemma length_printed_cons (f : PrintedFile) (rest : List PrintedFile) :
    (printed framing (f :: rest)).length =
      (f.throughClosing framing).length + 1 + (printed framing rest).length := by
  rw [← String.length_toList, toList_printed_cons, List.length_append, List.length_cons,
    String.length_toList, String.length_toList]
  omega

lemma closedWithin_of_lt {f : PrintedFile} {room : Nat}
    (h : room < (f.throughClosing framing).length) (rest : List PrintedFile) :
    closedWithin framing room (f :: rest) = [] := by
  rw [closedWithin, if_neg (Nat.not_le.2 h)]

lemma closedWithin_cons (f : PrintedFile) (room : Nat) (rest : List PrintedFile) :
    closedWithin framing ((f.throughClosing framing).length + 1 + room) (f :: rest) =
      f :: closedWithin framing room rest := by
  rw [closedWithin, if_pos (by omega), Nat.add_sub_cancel_left]

lemma throughClosing_length_pos (hframing : framing.IsOnOneLine) (f : PrintedFile) :
    0 < (f.throughClosing framing).length := by
  have hpos := List.length_pos_iff.2 hframing.closing_toList_ne
  rw [← String.length_toList, PrintedFile.toList_throughClosing]
  simp only [List.length_append]
  omega

lemma closedWithin_zero (hframing : framing.IsOnOneLine) (files : List PrintedFile) :
    closedWithin framing 0 files = [] := by
  cases files with
  | nil => rfl
  | cons f rest => exact closedWithin_of_lt (throughClosing_length_pos hframing f) rest

/-- In all that is printed every file is closed. -/
lemma closedWithin_length_printed (files : List PrintedFile) :
    closedWithin framing (printed framing files).length files = files := by
  induction files with
  | nil => rfl
  | cons f rest ih => rw [length_printed_cons, closedWithin_cons, ih]

/-! ## Blocks of what was printed -/

/-- **The run over a cut stream.** The blocks found in a prefix of what is printed are those of the
files closed within it, and behind them at most blocks that hold nothing. -/
theorem blocksIn_truncated (hframing : framing.IsOnOneLine) {files : List PrintedFile}
    (hfiles : ∀ f ∈ files, f.IsWellFramed framing) {cut : List Char}
    (hcut : cut <+: (printed framing files).toList) :
    ∃ rest : List Block, (∀ block ∈ rest, block = .nothing) ∧
      blocksIn framing cut =
        (closedWithin framing cut.length files).map (PrintedFile.block framing) ++ rest := by
  induction files generalizing cut with
  | nil =>
    obtain rfl : cut = [] := by simpa [printed] using hcut
    have habsent : ¬ framing.opening.toList <:+: [] :=
      fun hin => hframing.opening_toList_ne (List.infix_nil.1 hin)
    refine ⟨[], by simp, ?_⟩
    rw [blocksIn_of_absent habsent]
    rfl
  | cons f files ih =>
    have hf : f.IsWellFramed framing := hfiles f List.mem_cons_self
    have hothers : ∀ g ∈ files, g.IsWellFramed framing :=
      fun g hg => hfiles g (List.mem_cons_of_mem f hg)
    rw [toList_printed_cons] at hcut
    rcases prefix_append_cases hcut with ⟨hshort, hlen⟩ | ⟨behind, rfl, hbehind⟩
    · -- cut off before the end of the closing
      rw [String.length_toList] at hlen
      refine ⟨blocksIn framing cut, eq_nothing_of_mem_blocksIn_cut hframing hf hshort hlen, ?_⟩
      rw [closedWithin_of_lt hlen]
      rfl
    · cases behind with
      | nil =>
        -- cut off right behind the closing
        refine ⟨[], by simp, ?_⟩
        rw [List.append_nil, blocksIn_throughClosing hframing hf, String.length_toList,
          closedWithin, if_pos le_rfl, Nat.sub_eq_zero_of_le (Nat.le_succ _),
          closedWithin_zero hframing]
        rfl
      | cons c behind =>
        -- cut off in the other files, or not at all
        obtain ⟨rfl, hrest⟩ := List.cons_prefix_cons.1 hbehind
        obtain ⟨rest, hnothing, hblocks⟩ := ih hothers hrest
        refine ⟨rest, hnothing, ?_⟩
        have hlen : ((f.throughClosing framing).toList ++ '\n' :: behind).length =
            (f.throughClosing framing).length + 1 + behind.length := by
          simp only [List.length_append, List.length_cons, String.length_toList]
          omega
        rw [blocksIn_throughClosing_append hframing hf, hblocks, hlen, closedWithin_cons]
        rfl

/-! ## Files of a block -/

lemma firstLine_append {line : List Char} (hline : '\n' ∉ line) (content : List Char) :
    firstLine (line ++ '\n' :: content) = (line, content) := by
  have hall := bne_of_notMem hline
  rw [firstLine, List.takeWhile_append_of_pos hall, List.dropWhile_append_of_pos hall]
  simp

/-- A printed file makes the block of its path and its content. -/
lemma block_eq {f : PrintedFile} (h : f.IsWellFramed framing) :
    f.block framing =
      if trim (f.text framing).toList = framing.unreadable.toList then
        .unreadable f.path.toList
      else if AllBlank (f.text framing).toList then .nothing
      else .file f.path.toList (f.text framing).toList := by
  have hpath : f.path.toList ≠ [] := by simpa using h.path_ne
  have hline : dropLineEnd ('\n' :: f.body framing) = f.body framing := rfl
  rw [PrintedFile.block, Block.ofBody, hline, PrintedFile.body, firstLine_append h.path_line]
  simp only [h.path_trimmed, List.isEmpty_iff, hpath, beq_iff_eq, isBlankText_iff, if_false]

/-- A file that could not be read makes the block of its path. -/
lemma block_of_unreadable (hmark : trim framing.unreadable.toList = framing.unreadable.toList)
    {f : PrintedFile} (h : f.IsWellFramed framing) (hcontent : f.content = none) :
    f.block framing = .unreadable f.path.toList := by
  have htext : (f.text framing).toList = framing.unreadable.toList ++ ['\n'] := by
    rw [PrintedFile.text_of_none hcontent, String.toList_append]
    rfl
  have hfeed : AllBlank ['\n'] := allBlank_singleton rfl
  rw [block_eq h, htext, trim_append_blank hfeed, if_pos hmark]

/-- The block of a printed file holds the file that is to be recovered. -/
lemma file?_block (hmark : trim framing.unreadable.toList = framing.unreadable.toList)
    {f : PrintedFile} (h : f.IsWellFramed framing) :
    (f.block framing).file? = f.file? framing := by
  cases hcontent : f.content with
  | none =>
    rw [block_of_unreadable hmark h hcontent, PrintedFile.file?, hcontent]
    rfl
  | some content =>
    rw [block_eq h, PrintedFile.file?, hcontent, PrintedFile.text_of_some hcontent]
    by_cases hmarked : trim content.toList = framing.unreadable.toList
    · simp [hmarked, Block.file?]
    · by_cases hblank : AllBlank content.toList
      · simp [hmarked, hblank, Block.file?]
      · simp [hmarked, hblank, Block.file?]

/-- The block of a printed file holds the path that is to be reported. -/
lemma unreadable?_block (hmark : trim framing.unreadable.toList = framing.unreadable.toList)
    {f : PrintedFile} (h : f.IsWellFramed framing) :
    (f.block framing).unreadable? = f.skipped? framing := by
  cases hcontent : f.content with
  | none =>
    rw [block_of_unreadable hmark h hcontent, PrintedFile.skipped?, hcontent]
    simp [Block.unreadable?]
  | some content =>
    rw [block_eq h, PrintedFile.skipped?, hcontent, PrintedFile.text_of_some hcontent]
    by_cases hmarked : trim content.toList = framing.unreadable.toList
    · simp [hmarked, Block.unreadable?]
    · by_cases hblank : AllBlank content.toList
      · simp [hmarked, hblank, Block.unreadable?]
      · simp [hmarked, hblank, Block.unreadable?]

/-! ## Decoding what was printed -/

lemma decode?_eq (hframing : framing.IsOnOneLine) (text : String) :
    Stream.decode? framing text =
      some { files := (blocksIn framing text.toList).filterMap Block.file?
             skipped := (blocksIn framing text.toList).filterMap Block.unreadable? } := by
  have hopening : framing.opening.isEmpty = false := by simpa using hframing.opening_ne
  rw [Stream.decode?, hopening]
  rfl

/-- Blocks that hold nothing do not matter to what is made of blocks. -/
lemma filterMap_append_nothing {α : Type} {g : Block → Option α} (hg : g .nothing = none)
    {rest : List Block} (h : ∀ block ∈ rest, block = .nothing) (blocks : List Block) :
    (blocks ++ rest).filterMap g = blocks.filterMap g := by
  have hrest : rest.filterMap g = [] :=
    List.filterMap_eq_nil_iff.2 fun block hblock => by rw [h block hblock, hg]
  rw [List.filterMap_append, hrest, List.append_nil]

lemma mem_of_mem_closedWithin {f : PrintedFile} {room : Nat} {files : List PrintedFile}
    (h : f ∈ closedWithin framing room files) : f ∈ files := by
  induction files generalizing room with
  | nil => simp [closedWithin] at h
  | cons g files ih =>
    rw [closedWithin] at h
    split at h
    · rcases List.mem_cons.1 h with rfl | h
      · exact List.mem_cons_self
      · exact List.mem_cons_of_mem g (ih h)
    · simp at h

/-- **Decoding undoes printing, also if what was printed was cut off.** For delimiters on one line,
a mark for unreadable files that is trimmed, and well framed files behind any noise, decoding a
prefix of what is printed gives exactly the files whose closing lies completely in the prefix, in
order and with their contents unchanged: those that are neither blank nor marked are recovered, and
those that are marked or could not be read are reported. -/
theorem decoding_undoes_printing {framing : Framing} {files : List PrintedFile} {cut : String}
    (hframing : framing.IsOnOneLine)
    (hmark : trim framing.unreadable.toList = framing.unreadable.toList)
    (hfiles : ∀ f ∈ files, f.IsWellFramed framing)
    (hcut : cut.toList <+: (printed framing files).toList) :
    Stream.decode? framing cut =
      some
        { files := (closedWithin framing cut.length files).filterMap (·.file? framing)
          skipped := (closedWithin framing cut.length files).filterMap (·.skipped? framing) } := by
  obtain ⟨rest, hnothing, hblocks⟩ := blocksIn_truncated hframing hfiles hcut
  rw [String.length_toList] at hblocks
  have hclosed : ∀ f ∈ closedWithin framing cut.length files, f.IsWellFramed framing :=
    fun f hf => hfiles f (mem_of_mem_closedWithin hf)
  have hrecovered : (blocksIn framing cut.toList).filterMap Block.file? =
      (closedWithin framing cut.length files).filterMap (·.file? framing) := by
    rw [hblocks, filterMap_append_nothing rfl hnothing, List.filterMap_map]
    exact List.filterMap_congr fun f hf => file?_block hmark (hclosed f hf)
  have hreported : (blocksIn framing cut.toList).filterMap Block.unreadable? =
      (closedWithin framing cut.length files).filterMap (·.skipped? framing) := by
    rw [hblocks, filterMap_append_nothing rfl hnothing, List.filterMap_map]
    exact List.filterMap_congr fun f hf => unreadable?_block hmark (hclosed f hf)
  rw [decode?_eq hframing, hrecovered, hreported]

/-- Short delimiters. -/
def shortFraming : Framing :=
  { opening := "<<", closing := "/>", unreadable := "?" }

/-- Three files: the first runs into its closing, and the second could not be read. -/
def threeFiles : List PrintedFile :=
  [{ path := "a.ts", content := some "x\n/" },
   { noise := "warning\n", path := "b.ts", content := none },
   { path := "c.ts", content := some "y\n" }]

/-- The third file was cut off in its closing. -/
theorem decoding_cut_in_closing :
    Stream.decode? shortFraming
        "<<\na.ts\nx\n//>\nwarning\n<<\nb.ts\n?\n/>\n<<\nc.ts\ny\n/" =
      some { files := [⟨"a.ts", "x\n/"⟩], skipped := ["b.ts"] } := by
  have hframing : shortFraming.IsOnOneLine := by constructor <;> decide
  have hfiles : ∀ f ∈ threeFiles, f.IsWellFramed shortFraming := by
    simp only [threeFiles, List.forall_mem_cons]
    refine ⟨?_, ?_, ?_, by simp⟩
    all_goals constructor <;> decide
  have hmark : trim shortFraming.unreadable.toList = shortFraming.unreadable.toList := by
    decide
  have hcut : "<<\na.ts\nx\n//>\nwarning\n<<\nb.ts\n?\n/>\n<<\nc.ts\ny\n/".toList <+:
      (printed shortFraming threeFiles).toList := by
    decide
  rw [decoding_undoes_printing hframing hmark hfiles hcut]
  decide

/-! ## Printing what was decoded -/

/-- A recovered file, to be printed without noise. -/
def ScannedFile.toPrint (file : ScannedFile) : PrintedFile :=
  { path := file.path, content := some file.content }

@[simp] lemma text_toPrint (file : ScannedFile) : file.toPrint.text framing = file.content :=
  PrintedFile.text_of_some rfl

@[simp] lemma path_toPrint (file : ScannedFile) : file.toPrint.path = file.path :=
  rfl

lemma dropLineEnd_suffix (s : List Char) : dropLineEnd s <:+ s := by
  fun_cases dropLineEnd s with
  | case1 rest => exact ⟨['\r', '\n'], rfl⟩
  | case2 rest => exact ⟨['\n'], rfl⟩
  | case3 => exact List.suffix_rfl

/-- A text with something behind its first line. -/
lemma eq_of_firstLine {s line content : List Char} (h : firstLine s = (line, content))
    (hcontent : content ≠ []) : s = line ++ '\n' :: content ∧ '\n' ∉ line := by
  simp only [firstLine, Prod.mk.injEq] at h
  obtain ⟨rfl, rfl⟩ := h
  constructor
  · have hwhole := List.takeWhile_append_dropWhile (p := (· != '\n')) (l := s)
    cases hdrop : s.dropWhile (· != '\n') with
    | nil => simp [hdrop] at hcontent
    | cons c rest =>
      have hne : s.dropWhile (· != '\n') ≠ [] := by simp [hdrop]
      have hhead := List.head_dropWhile_not (· != '\n') hne
      have hc : c = '\n' := by simpa [hdrop] using hhead
      rw [hdrop, hc] at hwhole
      exact hwhole.symm
  · intro hin
    have hneq := List.mem_takeWhile_imp hin
    simp at hneq

/-- What a block with a file was made of. -/
lemma ofBody_eq_file {mark body path content : List Char}
    (h : Block.ofBody mark body = .file path content) :
    ∃ front line, body = front ++ (line ++ '\n' :: content) ∧ '\n' ∉ line ∧ path = trim line ∧
      path ≠ [] ∧ trim content ≠ mark ∧ ¬ AllBlank content := by
  cases hfirst : firstLine (dropLineEnd body) with
  | mk line rest =>
    simp only [Block.ofBody, hfirst, List.isEmpty_iff, beq_iff_eq, isBlankText_iff] at h
    by_cases hpath : trim line = []
    · simp [hpath] at h
    by_cases hmark : trim rest = mark
    · simp [hpath, hmark] at h
    by_cases hblank : AllBlank rest
    · simp [hpath, hmark, hblank] at h
    simp only [hpath, hmark, hblank, if_false, Block.file.injEq] at h
    obtain ⟨rfl, rfl⟩ := h
    have hrest : rest ≠ [] := by
      rintro rfl
      exact hblank (by simp [AllBlank])
    obtain ⟨hbody, hline⟩ := eq_of_firstLine hfirst hrest
    obtain ⟨front, hfront⟩ := dropLineEnd_suffix body
    refine ⟨front, line, ?_, hline, rfl, hpath, hmark, hblank⟩
    rw [← hbody, hfront]

/-- A recovered file comes from a piece of the text in which the opening does not occur. -/
lemma exists_piece_of_mem_decode (hframing : framing.IsOnOneLine) {text : String}
    {file : ScannedFile} (h : file ∈ (Stream.decode framing text).files) :
    ∃ body after, ¬ framing.opening.toList <:+: body ++ framing.closing.toList ++ after ∧
      FirstAtEnd framing.closing.toList body ∧
      Block.ofBody framing.unreadable.toList body =
        .file file.path.toList file.content.toList := by
  obtain ⟨block, hblock, hfile⟩ := List.mem_filterMap.1 h
  obtain ⟨piece, hpiece, rfl⟩ := List.mem_map.1 hblock
  have habsent := absent_of_mem_splitOn hframing.opening_toList_ne (List.mem_of_mem_drop hpiece)
  cases hcut : cutAt? framing.closing.toList piece with
  | none => simp [Block.ofText, hcut, Block.file?] at hfile
  | some cut =>
    obtain ⟨rfl, hfirst⟩ := cutAt?_eq_some_iff.1 (hcut : _ = some (cut.1, cut.2))
    refine ⟨cut.1, cut.2, habsent, hfirst, ?_⟩
    simp only [Block.ofText, hcut] at hfile
    cases hbody : Block.ofBody framing.unreadable.toList cut.1 with
    | file path content =>
      simp only [hbody, Block.file?, Option.some.injEq] at hfile
      simp [← hfile]
    | unreadable path => simp [hbody, Block.file?] at hfile
    | nothing => simp [hbody, Block.file?] at hfile

/-- **What was cut out of a stream can be put back.** A recovered file is well framed: between two
openings lies no opening, and the first closing behind an opening is the one at which the content
ended. -/
theorem isWellFramed_of_mem_decode (hframing : framing.IsOnOneLine) {text : String}
    {file : ScannedFile} (h : file ∈ (Stream.decode framing text).files) :
    file.toPrint.IsWellFramed framing := by
  obtain ⟨body, after, habsent, hfirst, hbody⟩ := exists_piece_of_mem_decode hframing h
  obtain ⟨front, line, rfl, hline, hpath, hne, -, -⟩ := ofBody_eq_file hbody
  have hinside : file.path.toList <:+: line := hpath ▸ infix_trim line
  have hcontent : FirstAtEnd framing.closing.toList file.content.toList := by
    have hbehind : front ++ (line ++ '\n' :: file.content.toList) =
        (front ++ line ++ ['\n']) ++ file.content.toList := by simp
    rw [hbehind] at hfirst
    exact hfirst.of_append
  have hplain : ¬ framing.closing.toList <:+: file.path.toList := by
    intro hin
    refine hfirst.absent_before hframing.closing_toList_ne ?_
    exact (hin.trans hinside).trans ⟨front, '\n' :: file.content.toList, by simp⟩
  constructor
  case noise_line => exact Or.inl rfl
  case noise_plain =>
    intro hin
    exact hframing.opening_toList_ne (List.infix_nil.1 hin)
  case path_ne =>
    intro hempty
    exact hne (by simpa using hempty)
  case path_line =>
    intro hin
    exact hline (hinside.subset hin)
  case path_trimmed => rw [path_toPrint, hpath, trim_trim]
  case opening_absent =>
    have hpieces : (file.toPrint.path ++ "\n" ++ file.toPrint.text framing ++
        framing.closing).toList =
        file.path.toList ++ '\n' :: (file.content.toList ++ framing.closing.toList) := by
      simp
    rw [hpieces, infix_append_cons_iff hframing.opening_line, not_or]
    constructor
    · intro hin
      refine habsent ((hin.trans hinside).trans ?_)
      exact ⟨front, '\n' :: file.content.toList ++ framing.closing.toList ++ after, by simp⟩
    · intro hin
      refine habsent (hin.trans ?_)
      exact ⟨front ++ line ++ ['\n'], after, by simp⟩
  case closing_first =>
    have hpieces : (file.toPrint.path ++ "\n" ++ file.toPrint.text framing).toList =
        file.path.toList ++ '\n' :: file.content.toList := by
      simp
    rw [hpieces]
    exact hcontent.append_cons hframing.closing_line hplain

/-- The block of a recovered file that is printed again holds the file. -/
lemma block_toPrint (hframing : framing.IsOnOneLine) {text : String}
    {file : ScannedFile} (h : file ∈ (Stream.decode framing text).files) :
    file.toPrint.block framing = .file file.path.toList file.content.toList := by
  obtain ⟨body, after, -, -, hbody⟩ := exists_piece_of_mem_decode hframing h
  obtain ⟨-, -, -, -, -, -, hmarked, hblank⟩ := ofBody_eq_file hbody
  rw [block_eq (isWellFramed_of_mem_decode hframing h), text_toPrint, path_toPrint,
    if_neg hmarked, if_neg hblank]

/-- **Printing undoes decoding.** Whatever text is decoded, with delimiters on one line and any mark
for unreadable files: if the recovered files are printed and that is decoded again, the same files
are recovered in the same order, and nothing is reported as unreadable.  No recovered path holds a
line feed, and no recovered content holds a delimiter or the beginning of one that ends in its
closing. -/
theorem printing_undoes_decoding {framing : Framing} (hframing : framing.IsOnOneLine)
    (text : String) :
    ∃ stream, Stream.decode? framing text = some stream ∧
      Stream.decode? framing (printed framing (stream.files.map ScannedFile.toPrint)) =
        some { files := stream.files, skipped := [] } ∧
      ∀ file ∈ stream.files,
        '\n' ∉ file.path.toList ∧
        ¬ framing.opening.toList <:+: file.content.toList ∧
        ¬ framing.closing.toList <:+: file.content.toList ∧
        ¬ framing.opening.toList <:+: (file.content ++ framing.closing).toList ∧
        FirstAtEnd framing.closing.toList file.content.toList := by
  refine ⟨.decode framing text, decode?_eq hframing text, ?_, ?_⟩
  · set files := (Stream.decode framing text).files
    have hframed : ∀ f ∈ files.map ScannedFile.toPrint, f.IsWellFramed framing := by
      intro f hf
      obtain ⟨file, hfile, rfl⟩ := List.mem_map.1 hf
      exact isWellFramed_of_mem_decode hframing hfile
    have hblocks : (files.map ScannedFile.toPrint).map (PrintedFile.block framing) =
        files.map fun file => .file file.path.toList file.content.toList := by
      rw [List.map_map]
      exact List.map_congr_left fun file hfile => block_toPrint hframing hfile
    obtain ⟨rest, hnothing, hprinted⟩ :=
      blocksIn_truncated hframing hframed (List.prefix_refl _)
    rw [String.length_toList, closedWithin_length_printed, hblocks] at hprinted
    rw [decode?_eq hframing, hprinted, filterMap_append_nothing rfl hnothing,
      filterMap_append_nothing rfl hnothing]
    simp [List.filterMap_map, Function.comp_def, Block.file?, Block.unreadable?]
  · intro file hfile
    have h := isWellFramed_of_mem_decode hframing hfile
    have hfirst := h.first_content
    have habsent := h.absent_content
    rw [text_toPrint] at hfirst habsent
    exact ⟨h.path_line, fun hin => habsent (hin.trans ⟨[], framing.closing.toList, by simp⟩),
      hfirst.absent_before hframing.closing_toList_ne, habsent, hfirst⟩

/-- A text with other line ends, a closing in a path, and a file that was cut off. -/
theorem decoding_malformed_twice :
    Stream.decode? shortFraming "<<\r\n a.ts \nx</>z<<b/>\nu/><<c.ts\nv" =
        some { files := [⟨"a.ts", "x<"⟩] } ∧
      Stream.decode? shortFraming "<<\na.ts\nx</>\n" = some { files := [⟨"a.ts", "x<"⟩] } := by
  have hframing : shortFraming.IsOnOneLine := by constructor <;> decide
  obtain ⟨stream, hdecoded, hprinted, -⟩ :=
    printing_undoes_decoding hframing "<<\r\n a.ts \nx</>z<<b/>\nu/><<c.ts\nv"
  have hstream : Stream.decode? shortFraming "<<\r\n a.ts \nx</>z<<b/>\nu/><<c.ts\nv" =
      some { files := [⟨"a.ts", "x<"⟩] } := by decide +kernel
  rw [hstream, Option.some.injEq] at hdecoded
  subst hdecoded
  exact ⟨hstream, hprinted⟩

end ProjectCheck.Scan
