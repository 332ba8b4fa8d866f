import ProjectCheck.Proofs.Text.Decoding
import ProjectCheck.Sandbox.Response

/-!
# The shapes of a response

A sandbox may give the same response in many shapes: the fields of a record, a mapping or an object,
under any of several names, and each stream as a text, as bytes, or cut into chunks that stand in
lists inside of each other.  All shapes with the same exit code and the same streams have the same
result, but for one thing: bytes are decoded chunk by chunk.  A stream of bytes keeps its text
exactly if no cut splits a character (`normalize_presented`), and two bytes of one character in two
chunks show two replacements (`not_forall_shapes_alike`).
-/

namespace ProjectCheck

open ProjectCheck.Text

/-! ## Chunks -/

/-- Something whole, or cut into chunks that stand in lists and tuples. -/
inductive Chunked (α : Type) where
  | whole (a : α)
  | list (items : List (Chunked α))
  | tuple (items : List (Chunked α))

namespace Chunked

variable {α : Type}

mutual

/-- The chunks from the first to the last. -/
def chunks : Chunked α → List α
  | whole a => [a]
  | list items => chunksOf items
  | tuple items => chunksOf items

/-- The chunks of several items from the first to the last. -/
def chunksOf : List (Chunked α) → List α
  | [] => []
  | item :: rest => item.chunks ++ chunksOf rest

end

mutual

/-- Chunks as a value. -/
def toValue (f : α → Value) : Chunked α → Value
  | whole a => f a
  | list items => .list (toValues f items)
  | tuple items => .tuple (toValues f items)

/-- Items of chunks as values. -/
def toValues (f : α → Value) : List (Chunked α) → List Value
  | [] => []
  | item :: rest => item.toValue f :: toValues f rest

end

mutual

/-- The text of chunks is made of the texts of all chunks in a row. -/
theorem toList_streamText_toValue (f : α → Value) : ∀ c : Chunked α,
    (Response.streamText (c.toValue f)).toList =
      c.chunks.flatMap fun a => (Response.streamText (f a)).toList
  | whole a => by simp [toValue, chunks]
  | list items => by
    rw [toValue, Response.streamText, chunks]
    exact toList_streamTexts_toValues f items
  | tuple items => by
    rw [toValue, Response.streamText, chunks]
    exact toList_streamTexts_toValues f items

theorem toList_streamTexts_toValues (f : α → Value) : ∀ items : List (Chunked α),
    (Response.streamTexts (toValues f items)).toList =
      (chunksOf items).flatMap fun a => (Response.streamText (f a)).toList
  | [] => rfl
  | item :: rest => by
    rw [toValues, Response.streamTexts, chunksOf, String.toList_append, List.flatMap_append,
      toList_streamText_toValue f item, toList_streamTexts_toValues f rest]

end

end Chunked

/-! ## Streams -/

/-- A stream as a sandbox may give it. -/
inductive GivenStream where
  | texts (c : Chunked String)
  | bytes (c : Chunked (List UInt8))

namespace GivenStream

/-- A stream as a value. -/
def toValue : GivenStream → Value
  | texts c => c.toValue .text
  | bytes c => c.toValue .bytes

/-- The text of the whole stream. -/
def wholeText : GivenStream → String
  | texts c => String.ofList (c.chunks.flatMap String.toList)
  | bytes c => stringOfBytes c.chunks.flatten

/-- The text of the chunks in a row. -/
def chunkText : GivenStream → String
  | texts c => String.ofList (c.chunks.flatMap String.toList)
  | bytes c => String.ofList (c.chunks.flatMap decodeUtf8)

/-- No cut splits a character; a text can only be cut between characters. -/
def IsWhole : GivenStream → Prop
  | texts _ => True
  | bytes c => KeepsCharacters c.chunks

lemma streamText_toValue (s : GivenStream) : Response.streamText s.toValue = s.chunkText := by
  rw [← String.toList_inj]
  cases s with
  | texts c =>
    rw [toValue, chunkText, Chunked.toList_streamText_toValue, String.toList_ofList]
    rfl
  | bytes c =>
    rw [toValue, chunkText, Chunked.toList_streamText_toValue, String.toList_ofList]
    simp [Response.streamText, stringOfBytes]

lemma chunkText_eq_iff (s : GivenStream) : s.chunkText = s.wholeText ↔ s.IsWhole := by
  cases s with
  | texts c => exact ⟨fun _ => trivial, fun _ => rfl⟩
  | bytes c =>
    rw [chunkText, wholeText, IsWhole, stringOfBytes, String.ofList_inj]
    exact flatMap_decodeUtf8_eq_iff

end GivenStream

/-! ## Fields -/

namespace Response

/-- A response gives something under one of some names, and nothing or null under the others. -/
def Gives (v : Value) (names : List String) (content : Value) : Prop :=
  ∃ name ∈ names, Table.get? name (fieldsOf v) = some content ∧
    ∀ other ∈ names, other ≠ name → ∀ c, Table.get? other (fieldsOf v) = some c → c = .null

lemma isContainer_of_gives {v : Value} {names : List String} {content : Value}
    (h : Gives v names content) : isContainer v = true := by
  obtain ⟨name, -, hfield, -⟩ := h
  cases v with
  | list | tuple | record | mapping | object => rfl
  | _ => simp [fieldsOf, Table.get?] at hfield

/-- What is said under a name; null says nothing. -/
def told? (fields : List (String × Value)) (name : String) : Option Value :=
  match Table.get? name fields with
  | none => none
  | some .null => none
  | some value => some value

/-- What a response gives is picked, wherever it stands. -/
lemma pick_of_gives {v : Value} {names : List String} {content : Value}
    (h : Gives v names content) (hcontent : content ≠ .null) :
    pick (fieldsOf v) names = content := by
  obtain ⟨name, hname, hfield, hothers⟩ := h
  have hpick : pick (fieldsOf v) names =
      (names.findSome? (told? (fieldsOf v))).getD .null := rfl
  have hfound : told? (fieldsOf v) name = some content := by
    simp only [told?, hfield]
  have hsome : (names.findSome? (told? (fieldsOf v))).isSome := by
    rw [List.findSome?_isSome_iff]
    exact ⟨name, hname, by rw [hfound]; rfl⟩
  obtain ⟨first, hfirst⟩ := Option.isSome_iff_exists.1 hsome
  obtain ⟨other, hother, hheldother⟩ := List.exists_of_findSome?_eq_some hfirst
  rw [hpick, hfirst, Option.getD_some]
  by_cases hsame : other = name
  · rw [hsame, hfound] at hheldother
    exact (Option.some.inj hheldother).symm
  · rw [told?] at hheldother
    cases hget : Table.get? other (fieldsOf v) with
    | none => simp [hget] at hheldother
    | some c =>
      rw [hothers other hother hsame c hget] at hget
      simp [hget] at hheldother

lemma toValue_ne_null (s : GivenStream) : s.toValue ≠ .null := by
  rcases s with c | c <;> cases c <;> simp [GivenStream.toValue, Chunked.toValue]

/-- Whatever the shape of a response, its result has the exit code and the chunks of each stream in a
row.  That is the text of the whole stream exactly if no cut splits a character.  A result stays as it
is. -/
theorem normalize_presented {v : Value} {exitCode : Int} {out err : GivenStream}
    (hcode : Gives v exitCodeNames (.int exitCode)) (hout : Gives v stdoutNames out.toValue)
    (herr : Gives v stderrNames err.toValue) :
    ∃ r, normalize (.raw v) = .ok r ∧ normalize (.result r) = .ok r ∧ r.exitCode = exitCode ∧
      r.stdout = out.chunkText ∧ (r.stdout = out.wholeText ↔ out.IsWhole) ∧
      r.stderr = err.chunkText ∧ (r.stderr = err.wholeText ↔ err.IsWhole) := by
  refine ⟨⟨exitCode, out.chunkText, err.chunkText⟩, ?_, rfl, rfl, rfl, out.chunkText_eq_iff, rfl,
    err.chunkText_eq_iff⟩
  have hpick : exitCodeOf (pick (fieldsOf v) exitCodeNames) = .ok exitCode := by
    rw [pick_of_gives hcode (by simp)]
    rfl
  rw [normalize, isContainer_of_gives hcode]
  simp only [Bool.not_true, Bool.false_eq_true, if_false, hpick,
    pick_of_gives hout (toValue_ne_null out), pick_of_gives herr (toValue_ne_null err),
    GivenStream.streamText_toValue]
  rfl

/-- An object with a field of null, whose output is cut into bytes between two characters. -/
theorem normalize_nested_chunks :
    let v : Value := .object "reply"
      [("exit_code", .null), ("returncode", .int 2),
        ("output", .list [.bytes [0x61], .tuple [.bytes [0xC3, 0xA9], .bytes []]]),
        ("stderr", .tuple [.text "no ", .text "file"])]
    let out : GivenStream := .bytes (.list [.whole [0x61], .tuple [.whole [0xC3, 0xA9], .whole []]])
    let err : GivenStream := .texts (.tuple [.whole "no ", .whole "file"])
    Gives v exitCodeNames (.int 2) ∧ Gives v stdoutNames out.toValue ∧
      Gives v stderrNames err.toValue ∧
      ∃ r, normalize (.raw v) = .ok r ∧ normalize (.result r) = .ok r ∧ r.exitCode = 2 ∧
        r.stdout = out.chunkText ∧ (r.stdout = out.wholeText ↔ out.IsWhole) ∧
        r.stderr = err.chunkText ∧ (r.stderr = err.wholeText ↔ err.IsWhole) := by
  intro v out err
  have hcode : Gives v exitCodeNames (.int 2) :=
    ⟨"returncode", by simp [exitCodeNames], rfl, by simp [v, exitCodeNames, fieldsOf, Table.get?]⟩
  have hout : Gives v stdoutNames out.toValue :=
    ⟨"output", by simp [stdoutNames], rfl, by simp [v, stdoutNames, fieldsOf, Table.get?]⟩
  have herr : Gives v stderrNames err.toValue :=
    ⟨"stderr", by simp [stderrNames], rfl, by simp [stderrNames]⟩
  exact ⟨hcode, hout, herr, normalize_presented hcode hout herr⟩

/-- Not all shapes of a response have the same result: in two chunks, the two bytes of one character
are two replacements. -/
theorem not_forall_shapes_alike :
    ¬ ∀ (v : Value) (exitCode : Int) (out err : GivenStream), Gives v exitCodeNames (.int exitCode) →
      Gives v stdoutNames out.toValue → Gives v stderrNames err.toValue →
        normalize (.raw v) =
          .ok { exitCode, stdout := out.wholeText, stderr := err.wholeText } := by
  intro h
  have hresult := h
    (.record [("exit_code", .int 0), ("stdout", .list [.bytes [0xC3], .bytes [0xA9]]),
      ("stderr", .text "")]) 0
    (.bytes (.list [.whole [0xC3], .whole [0xA9]])) (.texts (.whole ""))
    ⟨"exit_code", by simp [exitCodeNames], rfl, by simp [exitCodeNames, fieldsOf, Table.get?]⟩
    ⟨"stdout", by simp [stdoutNames], rfl, by simp [stdoutNames, fieldsOf, Table.get?]⟩
    ⟨"stderr", by simp [stderrNames], rfl, by simp [stderrNames]⟩
  have hstdout := congrArg CommandResult.stdout (Except.ok.inj hresult)
  exact absurd hstdout (by decide)

end Response

end ProjectCheck
