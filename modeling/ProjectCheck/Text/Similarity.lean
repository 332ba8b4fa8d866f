/-!
# Similar words

How much of two texts agrees.  The longest block that both have in common counts first; then, in the
same way, what stands before it in both, and what stands behind it.  Of two blocks of one length the
one that starts first in the first text is taken, and of these the one that starts first in the
second.

Two texts are similar if at least six tenths of all their characters agree.
-/

namespace ProjectCheck.Text

/-- How many characters two texts have in common at their beginning. -/
def commonLead : List Char → List Char → Nat
  | a :: s, b :: t => if a == b then commonLead s t + 1 else 0
  | _, _ => 0

/-- A block that two texts have in common: where it starts in each of them, and its size. -/
structure CommonBlock where
  inFirst : Nat := 0
  inSecond : Nat := 0
  size : Nat := 0
deriving Repr, DecidableEq

/-- The larger of two blocks, the first of them if they have one size. -/
def CommonBlock.larger (a b : CommonBlock) : CommonBlock :=
  if a.size < b.size then b else a

/-- The largest block that two texts have in common. -/
def largestBlock (s t : List Char) : CommonBlock :=
  let blocks := (List.range s.length).flatMap fun i =>
    (List.range t.length).map fun j =>
      { inFirst := i, inSecond := j, size := commonLead (s.drop i) (t.drop j) }
  blocks.foldl CommonBlock.larger {}

/-- How many characters of two texts agree. -/
def agreement (s t : List Char) : Nat :=
  let block := largestBlock s t
  if _h : 0 < block.size ∧ block.inFirst < s.length then
    agreement (s.take block.inFirst) (t.take block.inSecond) + block.size +
      agreement (s.drop (block.inFirst + block.size)) (t.drop (block.inSecond + block.size))
  else 0
termination_by s.length
decreasing_by
  all_goals
    simp +zetaDelta only [List.length_take, List.length_drop] at *
    omega

/-- Whether two texts are similar. -/
def isSimilar (s t : List Char) : Bool :=
  6 * (s.length + t.length) ≤ 20 * agreement s t

/-- Whether one text is at least as similar to a word as another; of two that are equally similar, the
later in the order of texts comes first. -/
def isCloser (word s t : List Char) : Bool :=
  let first := agreement s word * (t.length + word.length)
  let second := agreement t word * (s.length + word.length)
  if first = second then String.ofList t ≤ String.ofList s else second < first

/-- The texts most similar to a word, at most three, in order. -/
def mostSimilar (word : String) (known : List String) : List String :=
  let similar := known.filter fun s => isSimilar s.toList word.toList
  let closest := similar.mergeSort fun s t => isCloser word.toList s.toList t.toList
  (closest.take 3).mergeSort fun s t => decide (s ≤ t)

end ProjectCheck.Text
