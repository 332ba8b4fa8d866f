import ProjectCheck.Yaml.Token

/-!
# Nodes of a YAML text

The tokens of a text form one tree of scalars, sequences and mappings.  `document` reads it from
the tokens: a text without a node is no tree, and a text with more than one is refused.  Sequences
and mappings may be nested up to a limit.

Each reader returns a node and the tokens behind it.  Where a node may be missing, the tokens that
can follow it say so, and the empty scalar takes its place.  `level` is how many collections are open
around what is read.  The count of steps that bounds the descent is that of the tokens, several
times over, since each level of nesting takes at least one.
-/

namespace ProjectCheck.Yaml

/-- A node. -/
inductive Node where
  | plain (text : List Char)
  | quoted (text : List Char)
  | sequence (items : List Node)
  | mapping (entries : List (Node × Node))
deriving Repr, Inhabited

namespace Node

/-- What stands for a node that is missing. -/
def missing : Node :=
  plain []

end Node

/-- Where a node stands, which decides how it may be written. -/
inductive Position where
  /-- Inside brackets or braces. -/
  | inFlow
  /-- In a block. -/
  | inBlock
  /-- Behind the mark of a key or a value of a block, where the items of a sequence need not be
  indented. -/
  | inEntry
deriving DecidableEq

/-- Whether one of some tokens comes next. -/
def comesNext (ends : List Token) (tokens : List Token) : Bool :=
  tokens.head?.any ends.contains

/-- How many collections may be open at once. -/
def nestingLimit : Nat :=
  487

/-- Refuses the tokens. -/
def noNode {α : Type} : Except Fault (α × List Token) :=
  .error .malformed

mutual

/-- Takes a node. -/
def takeNode : Nat → (level : Nat) → Position → List Token → Except Fault (Node × List Token)
  | 0, _, _, _ => noNode
  | fuel + 1, level, position, tokens =>
    let inside := fun (take : Unit → Except Fault (Node × List Token)) =>
      if level ≥ nestingLimit then .error .tooDeep else take ()
    match tokens with
    | .plain text :: rest => .ok (.plain text, rest)
    | .quoted text :: rest => .ok (.quoted text, rest)
    | .flowSequence :: rest => inside fun _ => do
      let (items, rest) ← takeFlowItems fuel (level + 1) true rest
      return (.sequence items, rest)
    | .flowMapping :: rest => inside fun _ => do
      let (entries, rest) ← takeFlowEntries fuel (level + 1) true rest
      return (.mapping entries, rest)
    | .blockSequence :: rest =>
      if position = .inFlow then noNode
      else inside fun _ => do
        match ← takeItems fuel (level + 1) [.blockEntry, .blockEnd] rest with
        | (items, .blockEnd :: rest) => return (.sequence items, rest)
        | _ => noNode
    | .blockMapping :: rest =>
      if position = .inFlow then noNode
      else inside fun _ => do
        match ← takeEntries fuel (level + 1) rest with
        | (entries, .blockEnd :: rest) => return (.mapping entries, rest)
        | _ => noNode
    | .blockEntry :: _ =>
      if position = .inEntry then inside fun _ => do
        let (items, rest) ←
          takeItems fuel (level + 1) [.blockEntry, .key, .value, .blockEnd] tokens
        return (.sequence items, rest)
      else noNode
    | _ => noNode

/-- Takes a node that is missing if one of some tokens comes next. -/
def takeNodeBefore : Nat → (level : Nat) → Position → (ends : List Token) → List Token →
    Except Fault (Node × List Token)
  | 0, _, _, _, _ => noNode
  | fuel + 1, level, position, ends, tokens =>
    if comesNext ends tokens then .ok (.missing, tokens)
    else takeNode fuel level position tokens

/-- Takes what follows the key of a mapping: its value, if there is one. -/
def takeValue : Nat → (level : Nat) → Position → (ends : List Token) → List Token →
    Except Fault (Node × List Token)
  | 0, _, _, _, _ => noNode
  | fuel + 1, level, position, ends, tokens =>
    match tokens with
    | .value :: rest => takeNodeBefore fuel level position ends rest
    | _ => .ok (.missing, tokens)

/-- Takes the items of a sequence in a block. -/
def takeItems : Nat → (level : Nat) → (ends : List Token) → List Token →
    Except Fault (List Node × List Token)
  | 0, _, _, _ => noNode
  | fuel + 1, level, ends, tokens =>
    match tokens with
    | .blockEntry :: rest => do
      let (item, rest) ← takeNodeBefore fuel level .inBlock ends rest
      let (items, rest) ← takeItems fuel level ends rest
      return (item :: items, rest)
    | _ => .ok ([], tokens)

/-- Takes the entries of a mapping in a block. -/
def takeEntries : Nat → (level : Nat) → List Token → Except Fault (List (Node × Node) × List Token)
  | 0, _, _ => noNode
  | fuel + 1, level, tokens =>
    match tokens with
    | .key :: rest => do
      let (key, rest) ← takeNodeBefore fuel level .inEntry [.key, .value, .blockEnd] rest
      let (value, rest) ← takeValue fuel level .inEntry [.key, .value, .blockEnd] rest
      let (entries, rest) ← takeEntries fuel level rest
      return ((key, value) :: entries, rest)
    | _ => .ok ([], tokens)

/-- Takes the items of a sequence in brackets, and the closing bracket.  An item that has a key is a
mapping of that key alone. -/
def takeFlowItems : Nat → (level : Nat) → (first : Bool) → List Token →
    Except Fault (List Node × List Token)
  | 0, _, _, _ => noNode
  | fuel + 1, level, first, tokens =>
    match tokens with
    | .flowSequenceEnd :: rest => .ok ([], rest)
    | .flowEntry :: rest =>
      if first then noNode
      else
        match rest with
        | .flowSequenceEnd :: rest => .ok ([], rest)
        | _ => takeFlowItem fuel level rest
    | _ => if first then takeFlowItem fuel level tokens else noNode

/-- Takes an item of a sequence in brackets, and the items behind it. -/
def takeFlowItem : Nat → (level : Nat) → List Token → Except Fault (List Node × List Token)
  | 0, _, _ => noNode
  | fuel + 1, level, tokens =>
    match tokens with
    | .key :: rest => do
      let (key, rest) ←
        takeNodeBefore fuel (level + 1) .inFlow [.value, .flowEntry, .flowSequenceEnd] rest
      let (value, rest) ← takeValue fuel (level + 1) .inFlow [.flowEntry, .flowSequenceEnd] rest
      let (items, rest) ← takeFlowItems fuel level false rest
      return (.mapping [(key, value)] :: items, rest)
    | _ => do
      let (item, rest) ← takeNode fuel level .inFlow tokens
      let (items, rest) ← takeFlowItems fuel level false rest
      return (item :: items, rest)

/-- Takes the entries of a mapping in braces, and the closing brace. -/
def takeFlowEntries : Nat → (level : Nat) → (first : Bool) → List Token →
    Except Fault (List (Node × Node) × List Token)
  | 0, _, _, _ => noNode
  | fuel + 1, level, first, tokens =>
    match tokens with
    | .flowMappingEnd :: rest => .ok ([], rest)
    | .flowEntry :: rest =>
      if first then noNode
      else
        match rest with
        | .flowMappingEnd :: rest => .ok ([], rest)
        | _ => takeFlowPair fuel level rest
    | _ => if first then takeFlowPair fuel level tokens else noNode

/-- Takes an entry of a mapping in braces, and the entries behind it.  A node without the mark of a
key is a key without a value. -/
def takeFlowPair : Nat → (level : Nat) → List Token → Except Fault (List (Node × Node) × List Token)
  | 0, _, _ => noNode
  | fuel + 1, level, tokens =>
    match tokens with
    | .key :: rest => do
      let (key, rest) ←
        takeNodeBefore fuel level .inFlow [.value, .flowEntry, .flowMappingEnd] rest
      let (value, rest) ← takeValue fuel level .inFlow [.flowEntry, .flowMappingEnd] rest
      let (entries, rest) ← takeFlowEntries fuel level false rest
      return ((key, value) :: entries, rest)
    | _ => do
      let (key, rest) ← takeNode fuel level .inFlow tokens
      let (entries, rest) ← takeFlowEntries fuel level false rest
      return ((key, .missing) :: entries, rest)

end

/-- Whether nothing follows a document but marks of its end. -/
def endsStream (tokens : List Token) : Bool :=
  tokens.all (· == .documentEnd)

/-- The steps that reading some tokens may take. -/
def stepsFor (tokens : List Token) : Nat :=
  4 * tokens.length + 4

/-- The node of a document that has begun with its mark. -/
def takeContent (tokens : List Token) : Except Fault (Node × List Token) :=
  if tokens.isEmpty || comesNext [.documentStart, .documentEnd] tokens then .ok (.missing, tokens)
  else takeNode (stepsFor tokens) 0 .inBlock tokens

/-- The node of the only document; nothing if there is no document. -/
def document (tokens : List Token) : Except Fault (Option Node) := do
  let only := fun (taken : Node × List Token) =>
    if endsStream taken.2 then Except.ok (some taken.1) else .error Fault.malformed
  match tokens with
  | [] => return none
  | .documentStart :: rest => only (← takeContent rest)
  | _ => only (← takeNode (stepsFor tokens) 0 .inBlock tokens)

end ProjectCheck.Yaml
