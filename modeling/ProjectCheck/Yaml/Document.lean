import ProjectCheck.Value.Overlay
import ProjectCheck.Yaml.Node
import ProjectCheck.Yaml.Scalar

/-!
# Values of a YAML text

`readYaml` reads the value of a YAML text; a text without a document stands for nothing.  Scalars in
quotes are texts, others are what their spelling says.  Of two entries of a mapping with equal keys
the later value is kept, in the place of the earlier one, and a key may be no list and no mapping.
The key `<<` brings in the entries of another mapping, or of several, behind which the entries of
its own mapping come.
-/

namespace ProjectCheck.Yaml

open ProjectCheck.Text

/-! ## Entries brought in -/

/-- The entries that a value under the key `<<` brings in; of several mappings the first counts
most. -/
def broughtIn? : Value → Option (List (Value × Value))
  | .list mappings => (mappings.reverse.mapM Value.entries?).map List.flatten
  | v => v.entries?

/-! ## Values -/

/-- The word that brings in other entries. -/
def mergeWord : List Char :=
  ['<', '<']

/-- The word that has no meaning but as a key. -/
def defaultWord : List Char :=
  ['=']

/-- Whether a node is a certain word without quotes. -/
def isWord (word : List Char) : Node → Bool
  | .plain text => text == word
  | _ => false

mutual

/-- The value of a node. -/
def valueOf : Node → Except Fault Value
  | .plain text =>
    if text == defaultWord || text == mergeWord then .error .malformed else plainScalar text
  | .quoted text => .ok (.text (String.ofList text))
  | .sequence items => (valuesOf items).map .list
  | .mapping entries => do
    let (other, own) ← entriesFrom entries
    return Value.gathered (other ++ own)

/-- The values of nodes. -/
def valuesOf : List Node → Except Fault (List Value)
  | [] => .ok []
  | item :: rest => do
    let value ← valueOf item
    return value :: (← valuesOf rest)

/-- The entries that a mapping brings in, and its own. -/
def entriesFrom :
    List (Node × Node) → Except Fault (List (Value × Value) × List (Value × Value))
  | [] => .ok ([], [])
  | (key, node) :: rest => do
    if isWord mergeWord key then
      let more ← orMalformed (broughtIn? (← valueOf node))
      let (other, own) ← entriesFrom rest
      return (more ++ other, own)
    else
      let name ← if isWord defaultWord key then .ok (.text "=") else valueOf key
      if !name.isKey then throw .malformed
      let value ← valueOf node
      let (other, own) ← entriesFrom rest
      return (other, (name, value) :: own)

end

/-- The value of a YAML text. -/
def readYaml (text : String) : Except Fault Value := do
  match ← document (← tokens (unifyLineEnds text.toList)) with
  | none => return .null
  | some node => valueOf node

end ProjectCheck.Yaml
