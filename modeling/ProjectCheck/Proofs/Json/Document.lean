import ProjectCheck.Proofs.Json.Token

/-!
# JSON documents with comments

A document is a JSON value with gaps between its tokens: white space, block comments and line
comments.  Behind the last item of an array or an object there may be an extra comma, and behind the
whole value an unfinished line comment.  Strict JSON is a document with white space only
(`Document.IsStrict`).

A document is written as a row of pieces (`Piece.text`).  Some of it is left if its comments are
removed, or its comments and its extra commas (`Piece.left`); of a line comment the line feed at its
end stays.  What a document means depends on its tokens alone (`Node.value_bare`).
-/

namespace ProjectCheck.Json

open ProjectCheck.Text ProjectCheck.Value

/-! ## Gaps -/

/-- The white space of JSON. -/
def whiteSpace : List Char :=
  [' ', '\t', '\n', '\r']

lemma mem_whiteSpace {c : Char} :
    c ∈ whiteSpace ↔ c = ' ' ∨ c = '\t' ∨ c = '\n' ∨ c = '\r' := by
  simp [whiteSpace]

/-- White space, or a comment. -/
inductive Trivia where
  | blank (c : Char) (isBlank : c ∈ whiteSpace)
  | block (body : List Char) (closedOnce : ¬ ['*', '/'] <:+: body)
  /-- A line comment, with the line feed at its end. -/
  | line (body : List Char) (oneLine : '\n' ∉ body)

/-- What may stand between two tokens. -/
abbrev Gap :=
  List Trivia

/-! ## Values -/

/-- Arrays and objects. -/
inductive Shape where
  | array
  | object

/-- The bracket before the items. -/
def Shape.opening : Shape → Char
  | array => '['
  | object => '\x7b'

/-- The bracket behind the items. -/
def Shape.closing : Shape → Char
  | array => ']'
  | object => '\x7d'

/-- The name of a member of an object, with the gaps before and behind the colon. -/
structure Name where
  parts : List StringPart
  beforeColon : Gap
  afterColon : Gap

/-- What stands before the value of an item. -/
def Label : Shape → Type
  | .array => Unit
  | .object => Name

mutual

/-- A JSON value with gaps. -/
inductive Node where
  | word (w : Word)
  | string (parts : List StringPart)
  | empty (shape : Shape) (gap : Gap)
  | full (shape : Shape) (items : Items shape)

/-- The items between two brackets.  Behind the last one there may be an extra comma. -/
inductive Items : Shape → Type where
  | last {shape : Shape} (before : Gap) (label : Label shape) (value : Node) (after : Gap)
      (extra : Option Gap) : Items shape
  | more {shape : Shape} (before : Gap) (label : Label shape) (value : Node) (after : Gap)
      (rest : Items shape) : Items shape

end

/-- A JSON text with comments and extra commas. -/
structure Document where
  before : Gap
  node : Node
  after : Gap
  /-- A line comment up to the end of the text. -/
  unfinished : Option { body : List Char // '\n' ∉ body }

/-! ## Pieces -/

/-- A token, an extra comma, or something between tokens. -/
inductive Piece where
  | trivia (t : Trivia)
  | word (w : Word)
  | string (parts : List StringPart)
  | mark (c : Char) (isMark : c ∈ [':', ',', '[', ']', '\x7b', '\x7d'])
  | extraComma

/-- How a text between tokens is written. -/
def Trivia.text : Trivia → List Char
  | blank c _ => [c]
  | block body _ => '/' :: '*' :: body ++ ['*', '/']
  | line body _ => '/' :: '/' :: body ++ ['\n']

/-- What is left of a text between tokens without its comments. -/
def Trivia.left : Trivia → List Char
  | blank c _ => [c]
  | block .. => []
  | line .. => ['\n']

/-- What is left of a gap without its comments. -/
def Gap.left (gap : Gap) : List Char :=
  gap.flatMap Trivia.left

/-- How much is removed from a document. -/
inductive Removal where
  /-- The comments. -/
  | comments
  /-- The comments and the extra commas. -/
  | all

namespace Piece

/-- How a piece is written. -/
def text : Piece → List Char
  | trivia t => t.text
  | word w => w.text
  | string parts => '"' :: inner parts ++ ['"']
  | mark c _ => [c]
  | extraComma => [',']

/-- What is left of a piece. -/
def left : Removal → Piece → List Char
  | _, trivia t => t.left
  | .all, extraComma => []
  | _, piece => piece.text

/-- Whether a piece is neither a comment nor an extra comma. -/
def IsStrict : Piece → Prop
  | trivia (.block ..) | trivia (.line ..) | extraComma => False
  | _ => True

instance : DecidablePred IsStrict
  | trivia (.blank ..) | word _ | string _ | mark .. => isTrue trivial
  | trivia (.block ..) | trivia (.line ..) | extraComma => isFalse id

lemma left_of_isStrict {piece : Piece} (h : piece.IsStrict) (removal : Removal) :
    piece.left removal = piece.text := by
  cases piece with
  | trivia t =>
    cases t with
    | blank => rfl
    | block => exact absurd h id
    | line => exact absurd h id
  | word | string | mark => rfl
  | extraComma => exact absurd h id

end Piece

/-- The pieces of a gap. -/
def Gap.pieces (gap : Gap) : List Piece :=
  gap.map .trivia

/-- The pieces of what stands before the value of an item. -/
def Label.pieces : {shape : Shape} → Label shape → List Piece
  | .array, _ => []
  | .object, name =>
    .string name.parts :: name.beforeColon.pieces ++ .mark ':' (by decide) :: name.afterColon.pieces

/-- The pieces of an extra comma, if there is one, and of the gap behind it. -/
def extraPieces : Option Gap → List Piece
  | none => []
  | some gap => .extraComma :: gap.pieces

/-- The bracket before the items, as a piece. -/
def Shape.open (shape : Shape) : Piece :=
  .mark shape.opening (by cases shape <;> decide)

/-- The bracket behind the items, as a piece. -/
def Shape.close (shape : Shape) : Piece :=
  .mark shape.closing (by cases shape <;> decide)

mutual

/-- The pieces of a value. -/
def Node.pieces : Node → List Piece
  | .word w => [.word w]
  | .string parts => [.string parts]
  | .empty shape gap => shape.open :: gap.pieces ++ [shape.close]
  | .full shape items => shape.open :: items.pieces ++ [shape.close]

/-- The pieces between two brackets. -/
def Items.pieces {shape : Shape} : Items shape → List Piece
  | .last before label value after extra =>
    before.pieces ++ label.pieces ++ value.pieces ++ after.pieces ++ extraPieces extra
  | .more before label value after rest =>
    before.pieces ++ label.pieces ++ value.pieces ++ after.pieces ++
      .mark ',' (by decide) :: rest.pieces

end

/-! ## What is left -/

section

variable (removal : Removal)

/-- What is left of some pieces. -/
def leftOf (pieces : List Piece) : List Char :=
  pieces.flatMap (Piece.left removal)

@[simp] lemma leftOf_nil : leftOf removal [] = [] :=
  rfl

@[simp] lemma leftOf_cons (piece : Piece) (pieces : List Piece) :
    leftOf removal (piece :: pieces) = piece.left removal ++ leftOf removal pieces :=
  rfl

@[simp] lemma leftOf_append (pieces more : List Piece) :
    leftOf removal (pieces ++ more) = leftOf removal pieces ++ leftOf removal more :=
  List.flatMap_append

@[simp] lemma leftOf_gap (gap : Gap) : leftOf removal gap.pieces = gap.left := by
  rw [leftOf, Gap.pieces, List.flatMap_map, Gap.left]
  rfl

lemma leftOf_object (label : Label .object) (s : List Char) :
    leftOf removal label.pieces ++ s = '"' :: (inner (Name.parts label) ++
      '"' :: ((Name.beforeColon label).left ++ ':' :: ((Name.afterColon label).left ++ s))) := by
  simp [Label.pieces, Piece.left, Piece.text]

lemma leftOf_word (w : Word) : leftOf removal (Node.word w).pieces = w.text := by
  simp [Node.pieces, Piece.left, Piece.text]

lemma leftOf_string (parts : List StringPart) (s : List Char) :
    leftOf removal (Node.string parts).pieces ++ s = '"' :: (inner parts ++ '"' :: s) := by
  simp [Node.pieces, Piece.left, Piece.text]

lemma leftOf_empty (shape : Shape) (gap : Gap) (s : List Char) :
    leftOf removal (Node.empty shape gap).pieces ++ s =
      shape.opening :: (gap.left ++ shape.closing :: s) := by
  simp [Node.pieces, Shape.open, Shape.close, Piece.left, Piece.text]

lemma leftOf_full (shape : Shape) (items : Items shape) (s : List Char) :
    leftOf removal (Node.full shape items).pieces ++ s =
      shape.opening :: (leftOf removal items.pieces ++ shape.closing :: s) := by
  simp [Node.pieces, Shape.open, Shape.close, Piece.left, Piece.text]

variable {shape : Shape} (before : Gap) (label : Label shape) (value : Node) (after : Gap)

lemma leftOf_last (extra : Option Gap) (s : List Char) :
    leftOf removal (Items.last before label value after extra).pieces ++ s =
      before.left ++ (leftOf removal label.pieces ++ (leftOf removal value.pieces ++
        (after.left ++ (leftOf removal (extraPieces extra) ++ s)))) := by
  simp [Items.pieces]

lemma leftOf_more (rest : Items shape) (s : List Char) :
    leftOf removal (Items.more before label value after rest).pieces ++ s =
      before.left ++ (leftOf removal label.pieces ++ (leftOf removal value.pieces ++
        (after.left ++ ',' :: (leftOf removal rest.pieces ++ s)))) := by
  simp [Items.pieces, Piece.left, Piece.text]

end

/-- Without comments, gaps are white space. -/
lemma mem_left {gap : Gap} {c : Char} (h : c ∈ gap.left) : c ∈ whiteSpace := by
  obtain ⟨t, -, hc⟩ := List.mem_flatMap.1 h
  cases t with
  | blank other isBlank => rwa [List.mem_singleton.1 hc]
  | block => cases hc
  | line =>
    rw [List.mem_singleton.1 hc]
    decide

namespace Document

/-- The pieces of a document, except for an unfinished comment. -/
def pieces (d : Document) : List Piece :=
  d.before.pieces ++ d.node.pieces ++ d.after.pieces

/-- How a document is written. -/
def text (d : Document) : List Char :=
  d.pieces.flatMap Piece.text ++ (d.unfinished.elim [] fun body => '/' :: '/' :: body.val)

/-- What is left of a document without its comments and extra commas. -/
def kept (d : Document) : List Char :=
  leftOf .all d.pieces

/-- Whether a document is strict JSON: it holds neither comments nor extra commas. -/
def IsStrict (d : Document) : Prop :=
  d.unfinished = none ∧ ∀ piece ∈ d.pieces, piece.IsStrict

lemma kept_of_isStrict {d : Document} (h : d.IsStrict) : d.kept = d.text := by
  rw [text, kept, h.1]
  simp only [Option.elim_none, List.append_nil]
  exact List.flatMap_congr fun piece hpiece => piece.left_of_isStrict (h.2 piece hpiece) .all

lemma leftOf_pieces (removal : Removal) (d : Document) :
    leftOf removal d.pieces = d.before.left ++ (leftOf removal d.node.pieces ++ d.after.left) := by
  simp [pieces]

end Document

/-! ## Where items begin -/

section

variable (removal : Removal)

lemma Node.exists_eq_cons (node : Node) :
    ∃ c more, leftOf removal node.pieces = c :: more ∧ OpensItem c := by
  cases node with
  | word w =>
    obtain ⟨c, more, htext, hc, -⟩ := w.exists_eq_cons
    exact ⟨c, more, (leftOf_word removal w).trans htext, hc⟩
  | string parts => exact ⟨'"', _, rfl, by decide⟩
  | empty shape gap =>
    have hempty := leftOf_empty removal shape gap []
    rw [List.append_nil] at hempty
    exact ⟨shape.opening, _, hempty, by cases shape <;> decide⟩
  | full shape items =>
    have hfull := leftOf_full removal shape items []
    rw [List.append_nil] at hfull
    exact ⟨shape.opening, _, hfull, by cases shape <;> decide⟩

/-- Items begin, after white space, with a character that closes nothing. -/
lemma Items.exists_eq {shape : Shape} (items : Items shape) (s : List Char) :
    ∃ blanks c more, leftOf removal items.pieces ++ s = blanks ++ c :: more ∧
      (∀ b ∈ blanks, b ∈ whiteSpace) ∧ OpensItem c := by
  -- an item begins with its name, or with its value
  have hitem : ∀ (label : Label shape) (value : Node) (behind : List Char), ∃ c more,
      leftOf removal label.pieces ++ (leftOf removal value.pieces ++ behind) = c :: more ∧
        OpensItem c := fun label value behind => by
    cases shape with
    | array =>
      obtain ⟨c, more, hvalue, hc⟩ := value.exists_eq_cons removal
      exact ⟨c, more ++ behind, by rw [hvalue]; rfl, hc⟩
    | object => exact ⟨'"', _, leftOf_object removal label _, by decide⟩
  cases items with
  | last before label value after extra =>
    obtain ⟨c, more, hbegin, hc⟩ := hitem label value _
    exact ⟨before.left, c, more, by rw [leftOf_last, hbegin], fun b hb => mem_left hb, hc⟩
  | more before label value after rest =>
    obtain ⟨c, more, hbegin, hc⟩ := hitem label value _
    exact ⟨before.left, c, more, by rw [leftOf_more, hbegin], fun b hb => mem_left hb, hc⟩

end

/-! ## What a document means -/

/-- The name before the value of an item; there is none in an array. -/
def Label.said : {shape : Shape} → Label shape → String
  | .array, _ => ""
  | .object, name => String.ofList (Json.said name.parts)

/-- The value with some items. -/
def Shape.build : Shape → List (String × Value) → Value
  | array, items => .list (items.map Prod.snd)
  | object, members => .record (Table.ofPairs members)

mutual

/-- The value of a node around which `level` arrays and objects are open. -/
def Node.value : Node → (level : ℕ) → Except JsonFault Value
  | .word w, _ => orMalformed w.value?
  | .string parts, _ => .ok (.text (String.ofList (said parts)))
  | .empty shape _, level =>
    if level ≥ jsonNestingLimit then .error .tooDeep else .ok (shape.build [])
  | .full shape items, level =>
    if level ≥ jsonNestingLimit then .error .tooDeep
    else (items.values (level + 1)).map shape.build

/-- The values of items, with their names. -/
def Items.values {shape : Shape} : Items shape → (level : ℕ) →
    Except JsonFault (List (String × Value))
  | .last _ label value _ _, level => do
    let v ← value.value level
    return [(label.said, v)]
  | .more _ label value _ rest, level => do
    let v ← value.value level
    let vs ← rest.values level
    return (label.said, v) :: vs

end

/-! ## Tokens alone -/

/-- A label without its gaps. -/
def Label.bare : {shape : Shape} → Label shape → Label shape
  | .array, label => label
  | .object, name => { name with beforeColon := [], afterColon := [] }

mutual

/-- A node without its gaps and extra commas: what remains are its tokens. -/
def Node.bare : Node → Node
  | .word w => .word w
  | .string parts => .string parts
  | .empty shape _ => .empty shape []
  | .full shape items => .full shape items.bare

/-- Items without their gaps and extra commas. -/
def Items.bare {shape : Shape} : Items shape → Items shape
  | .last _ label value _ _ => .last [] label.bare value.bare [] none
  | .more _ label value _ rest => .more [] label.bare value.bare [] rest.bare

end

lemma Label.said_bare {shape : Shape} (label : Label shape) : label.bare.said = label.said := by
  cases shape <;> rfl

mutual

/-- What a node means is told by its tokens. -/
theorem Node.value_bare : (node : Node) → (level : ℕ) → node.bare.value level = node.value level
  | .word _, _ | .string _, _ | .empty .., _ => rfl
  | .full shape items, level => by
    simp only [Node.bare, Node.value, Items.values_bare items (level + 1)]

theorem Items.values_bare : {shape : Shape} → (items : Items shape) → (level : ℕ) →
    items.bare.values level = items.values level
  | _, .last before label value after extra, level => by
    simp only [Items.bare, Items.values, Node.value_bare value level, Label.said_bare]
  | _, .more before label value after rest, level => by
    simp only [Items.bare, Items.values, Node.value_bare value level,
      Items.values_bare rest level, Label.said_bare]

end

end ProjectCheck.Json
