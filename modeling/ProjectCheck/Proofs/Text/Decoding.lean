import Mathlib.Data.List.Infix
import Mathlib.Data.List.Induction
import ProjectCheck.Text.Utf8

/-!
# Decoding bytes in chunks

Bytes that arrive in chunks can be decoded chunk by chunk or as a whole.  Both give the same text
exactly if no cut between two chunks splits a character (`flatMap_decodeUtf8_eq_iff`): if `a` ends
with a part of a character and `b` begins with the byte that comes next, each of the two shows a
replacement where the whole shows one character, or one replacement, so the parts show more than the
whole.

What splits a character is said by the grammar of UTF-8 (`IsCharacter`), not by the decoder.  The
link between the two is the character in progress: behind some bytes the decoder waits for more
exactly if they end with a part of a character, and then the bytes that it takes next are those that
can go on with this part (`splitsCharacter_iff`).
-/

namespace ProjectCheck.Text

/-! ## Characters as bytes -/

/-- A byte that only goes on with a character. -/
def IsTail (b : UInt8) : Prop :=
  0x80 ≤ b.toNat ∧ b.toNat ≤ 0xBF

/-- The bytes of one character.  The bounds on second bytes keep out spellings that are longer than
they need to be, surrogates, and what is beyond the last character. -/
inductive IsCharacter : List UInt8 → Prop
  | one {a : UInt8} : a.toNat ≤ 0x7F → IsCharacter [a]
  | two {a b : UInt8} : 0xC2 ≤ a.toNat → a.toNat ≤ 0xDF → IsTail b → IsCharacter [a, b]
  | three {a b c : UInt8} : 0xE0 ≤ a.toNat → a.toNat ≤ 0xEF → IsTail b → IsTail c →
      (a.toNat = 0xE0 → 0xA0 ≤ b.toNat) → (a.toNat = 0xED → b.toNat ≤ 0x9F) → IsCharacter [a, b, c]
  | four {a b c d : UInt8} : 0xF0 ≤ a.toNat → a.toNat ≤ 0xF4 → IsTail b → IsTail c → IsTail d →
      (a.toNat = 0xF0 → 0x90 ≤ b.toNat) → (a.toNat = 0xF4 → b.toNat ≤ 0x8F) →
      IsCharacter [a, b, c, d]

/-- A cut splits a character: what stands before it ends with a part of a character, and what stands
behind it begins with the byte that comes next. -/
def SplitsCharacter (before behind : List UInt8) : Prop :=
  ∃ (front : List UInt8) (next : UInt8) (back : List UInt8), IsCharacter (front ++ next :: back) ∧
    front ≠ [] ∧ front <:+ before ∧ behind.head? = some next

/-- No cut between chunks in a row splits a character. -/
def KeepsCharacters : List (List UInt8) → Prop
  | [] => True
  | chunk :: rest => ¬ SplitsCharacter chunk rest.flatten ∧ KeepsCharacters rest

/-! ## The character in progress -/

namespace PendingChar

/-- Whether a byte goes on with a character in progress. -/
def Takes (p : PendingChar) (b : UInt8) : Prop :=
  p.low ≤ b.toNat ∧ b.toNat ≤ p.high

instance (p : PendingChar) (b : UInt8) : Decidable (p.Takes b) :=
  inferInstanceAs (Decidable (_ ∧ _))

/-- Only a tail goes on with a character in progress. -/
def TakesTails (p : PendingChar) : Prop :=
  0x80 ≤ p.low ∧ p.high ≤ 0xBF

/-- Bytes are what a character in progress waits for. -/
def Awaits (p : PendingChar) (bytes : List UInt8) : Prop :=
  ∃ next tails, bytes = next :: tails ∧ p.Takes next ∧ tails.length = p.wanted ∧
    ∀ b ∈ tails, IsTail b

/-- Some bytes are the part of a character that is in progress. -/
def IsOf (p : PendingChar) (front : List UInt8) : Prop :=
  p.TakesTails ∧ ∀ bytes, p.Awaits bytes → IsCharacter (front ++ bytes)

/-- Whatever a character in progress takes, something it waits for begins with it. -/
lemma Takes.exists_awaits {p : PendingChar} {b : UInt8} (h : p.Takes b) :
    ∃ back, p.Awaits (b :: back) :=
  ⟨List.replicate p.wanted 0x80, b, _, rfl, h, by simp, fun c hc => by
    rw [List.eq_of_mem_replicate hc]
    exact ⟨by decide, by decide⟩⟩

end PendingChar

/-- What a byte shows behind a character in progress, and the character in progress behind it. -/
def readByte (pending : Option PendingChar) (b : UInt8) : List Char × Option PendingChar :=
  match pending with
  | none => beginChar b.toNat
  | some p => continueChar p b.toNat

/-- The character in progress behind some bytes. -/
def pendingAfter (pending : Option PendingChar) (bytes : List UInt8) : Option PendingChar :=
  bytes.foldl (fun p b => (readByte p b).2) pending

lemma decodeFrom_cons (pending : Option PendingChar) (b : UInt8) (rest : List UInt8) :
    decodeFrom pending (b :: rest) =
      (readByte pending b).1 ++ decodeFrom (readByte pending b).2 rest := by
  cases pending <;> rfl

lemma pendingAfter_concat (pending : Option PendingChar) (bytes : List UInt8) (b : UInt8) :
    pendingAfter pending (bytes ++ [b]) = (readByte (pendingAfter pending bytes) b).2 := by
  simp [pendingAfter]

/-- What some bytes show does not depend on what follows, the character in progress apart. -/
lemma exists_decodeFrom_append (pending : Option PendingChar) (a : List UInt8) :
    ∃ shown, ∀ b, decodeFrom pending (a ++ b) = shown ++ decodeFrom (pendingAfter pending a) b := by
  induction a generalizing pending with
  | nil => exact ⟨[], fun b => rfl⟩
  | cons c a ih =>
    obtain ⟨shown, hshown⟩ := ih (readByte pending c).2
    refine ⟨(readByte pending c).1 ++ shown, fun b => ?_⟩
    rw [List.cons_append, decodeFrom_cons, hshown, List.append_assoc]
    rfl

/-! ## The grammar and the decoder -/

lemma readByte_of_takes {p : PendingChar} {b : UInt8} (h : p.Takes b) :
    readByte (some p) b =
      if p.wanted = 0 then ([Char.ofNat (p.bits * 64 + (b.toNat - 0x80))], none)
      else ([], some ⟨p.wanted - 1, 0x80, 0xBF, p.bits * 64 + (b.toNat - 0x80)⟩) := by
  obtain ⟨hlow, hhigh⟩ := h
  simp only [readByte, continueChar, decide_eq_true hlow, decide_eq_true hhigh, Bool.and_true,
    if_true]
  cases p.wanted <;> rfl

lemma readByte_of_not_takes {p : PendingChar} {b : UInt8} (h : ¬ p.Takes b) :
    readByte (some p) b =
      (replacementChar :: (beginChar b.toNat).1, (beginChar b.toNat).2) := by
  have hrange : (decide (p.low ≤ b.toNat) && decide (b.toNat ≤ p.high)) = false := by
    simpa [PendingChar.Takes] using h
  simp only [readByte, continueChar, hrange, Bool.false_eq_true, if_false]

/-- A byte with which a character begins is the part of it that is in progress. -/
lemma isOf_of_beginChar {b : UInt8} {p : PendingChar} (h : (beginChar b.toNat).2 = some p) :
    p.IsOf [b] := by
  simp only [beginChar, Bool.and_eq_true, decide_eq_true_eq, beq_iff_eq] at h
  split at h
  · simp at h
  split at h
  · rename_i hb
    obtain rfl := Option.some.inj h
    refine ⟨⟨le_refl _, le_refl _⟩, ?_⟩
    rintro _ ⟨next, tails, rfl, hnext, hlength, -⟩
    obtain rfl := List.length_eq_zero_iff.1 hlength
    exact .two hb.1 hb.2 hnext
  split at h
  · rename_i hb
    obtain rfl := Option.some.inj h
    refine ⟨⟨by dsimp only; split <;> omega, by dsimp only; split <;> omega⟩, ?_⟩
    rintro _ ⟨next, tails, rfl, hnext, hlength, htails⟩
    obtain ⟨c, rfl⟩ := List.length_eq_one_iff.1 hlength
    simp only [PendingChar.Takes] at hnext
    refine .three hb.1 hb.2 ⟨?_, ?_⟩ (htails c (by simp)) ?_ ?_ <;> (repeat' split at hnext) <;> omega
  split at h
  · rename_i hb
    obtain rfl := Option.some.inj h
    refine ⟨⟨by dsimp only; split <;> omega, by dsimp only; split <;> omega⟩, ?_⟩
    rintro _ ⟨next, tails, rfl, hnext, hlength, htails⟩
    obtain ⟨c, d, rfl⟩ := List.length_eq_two.1 hlength
    simp only [PendingChar.Takes] at hnext
    refine .four hb.1 hb.2 ⟨?_, ?_⟩ (htails c (by simp)) (htails d (by simp)) ?_ ?_ <;>
      (repeat' split at hnext) <;> omega
  · simp at h

/-- The first byte of a longer character begins it. -/
lemma exists_beginChar {a : UInt8} {bytes : List UInt8} (h : IsCharacter (a :: bytes))
    (hne : bytes ≠ []) :
    0xC2 ≤ a.toNat ∧ ∃ p, (beginChar a.toNat).2 = some p ∧ p.Awaits bytes := by
  simp only [beginChar, Bool.and_eq_true, decide_eq_true_eq, beq_iff_eq]
  cases h with
  | one => exact absurd rfl hne
  | @two _ b hlow hhigh hb =>
    refine ⟨hlow, ?_⟩
    rw [if_neg (by omega), if_pos ⟨hlow, hhigh⟩]
    exact ⟨_, rfl, b, [], rfl, hb, rfl, by simp⟩
  | @three _ b c hlow hhigh hb hc hE0 hED =>
    refine ⟨by omega, ?_⟩
    rw [if_neg (by omega), if_neg (by omega), if_pos ⟨hlow, hhigh⟩]
    obtain ⟨hb, hb'⟩ := hb
    exact ⟨_, rfl, b, [c], rfl, ⟨by dsimp only; split <;> omega, by dsimp only; split <;> omega⟩, rfl,
      by simpa using hc⟩
  | @four _ b c d hlow hhigh hb hc hd hF0 hF4 =>
    refine ⟨by omega, ?_⟩
    rw [if_neg (by omega), if_neg (by omega), if_neg (by omega), if_pos ⟨hlow, hhigh⟩]
    obtain ⟨hb, hb'⟩ := hb
    exact ⟨_, rfl, b, [c, d], rfl,
      ⟨by dsimp only; split <;> omega, by dsimp only; split <;> omega⟩, rfl, by simp [hc, hd]⟩

/-- A byte that a character in progress takes is one more of its bytes. -/
lemma isOf_of_takes {p q : PendingChar} {b : UInt8} {front : List UInt8} (h : p.IsOf front)
    (hb : p.Takes b) (hq : (readByte (some p) b).2 = some q) : q.IsOf (front ++ [b]) := by
  rw [readByte_of_takes hb] at hq
  split at hq
  · simp at hq
  · rename_i hwanted
    obtain rfl := Option.some.inj hq
    refine ⟨⟨le_refl _, le_refl _⟩, ?_⟩
    rintro _ ⟨next, tails, rfl, hnext, hlength, htails⟩
    rw [List.append_assoc]
    refine h.2 _ ⟨b, next :: tails, rfl, hb, ?_, ?_⟩
    · simp only at hlength
      rw [List.length_cons]
      omega
    · simpa using ⟨hnext, htails⟩

/-- A character in progress goes on to wait for what it waited for, less the byte that it took. -/
lemma exists_readByte_of_awaits {p : PendingChar} {b c : UInt8} {bytes : List UInt8}
    (h : p.Awaits (b :: c :: bytes)) :
    ∃ q, (readByte (some p) b).2 = some q ∧ q.Awaits (c :: bytes) := by
  obtain ⟨_, _, hbytes, hb, hlength, htails⟩ := h
  obtain ⟨rfl, rfl⟩ := List.cons.inj hbytes
  rw [List.length_cons] at hlength
  rw [readByte_of_takes hb, if_neg (by omega)]
  refine ⟨_, rfl, c, bytes, rfl, htails c (by simp), ?_, fun d hd => htails d (by simp [hd])⟩
  simp only
  omega

lemma exists_takes_of_awaits {p : PendingChar} {front back : List UInt8} {next : UInt8}
    (h : p.Awaits (front ++ next :: back)) :
    ∃ q, pendingAfter (some p) front = some q ∧ q.Takes next := by
  induction front generalizing p with
  | nil =>
    obtain ⟨_, _, hbytes, hnext, -⟩ := h
    obtain ⟨rfl, -⟩ := List.cons.inj hbytes
    exact ⟨p, rfl, hnext⟩
  | cons b front ih =>
    obtain ⟨c, bytes, hbytes⟩ : ∃ c bytes, front ++ next :: back = c :: bytes :=
      List.exists_cons_of_ne_nil (by simp)
    rw [List.cons_append, hbytes] at h
    obtain ⟨q, hq, hawaits⟩ := exists_readByte_of_awaits h
    rw [← hbytes] at hawaits
    obtain ⟨r, hr, hnext⟩ := ih hawaits
    exact ⟨r, by rw [← hr, ← hq]; rfl, hnext⟩

/-- What is in progress behind some bytes is a part of a character at their end. -/
lemma exists_isOf {bytes : List UInt8} {p : PendingChar} (h : pendingAfter none bytes = some p) :
    ∃ front, front ≠ [] ∧ front <:+ bytes ∧ p.IsOf front := by
  induction bytes using List.reverseRecOn generalizing p with
  | nil => simp [pendingAfter] at h
  | append_singleton bytes b ih =>
    rw [pendingAfter_concat] at h
    cases hq : pendingAfter none bytes with
    | none =>
      rw [hq] at h
      exact ⟨[b], by simp, List.suffix_append bytes [b], isOf_of_beginChar h⟩
    | some q =>
      rw [hq] at h
      obtain ⟨front, -, hfront, hof⟩ := ih hq
      by_cases hb : q.Takes b
      · refine ⟨front ++ [b], by simp, ?_, isOf_of_takes hof hb h⟩
        obtain ⟨before, rfl⟩ := hfront
        exact ⟨before, by simp⟩
      · rw [readByte_of_not_takes hb] at h
        exact ⟨[b], by simp, List.suffix_append bytes [b], isOf_of_beginChar h⟩

/-- A byte that begins a longer character does so whatever is in progress. -/
lemma readByte_of_begins (bytes : List UInt8) {b : UInt8} (hb : 0xC2 ≤ b.toNat) :
    (readByte (pendingAfter none bytes) b).2 = (beginChar b.toNat).2 := by
  cases hq : pendingAfter none bytes with
  | none => rfl
  | some q =>
    obtain ⟨-, -, -, ⟨-, hhigh⟩, -⟩ := exists_isOf hq
    rw [readByte_of_not_takes fun h => ?_]
    have := h.2
    omega

/-- A cut splits a character exactly if the byte behind it goes on with the character in progress
before it. -/
theorem splitsCharacter_iff {before behind : List UInt8} :
    SplitsCharacter before behind ↔
      ∃ p next, pendingAfter none before = some p ∧ behind.head? = some next ∧ p.Takes next := by
  constructor
  · rintro ⟨front, next, back, hcharacter, hne, ⟨earlier, rfl⟩, hnext⟩
    obtain ⟨b, front, rfl⟩ := List.exists_cons_of_ne_nil hne
    obtain ⟨hb, p, hp, hawaits⟩ := exists_beginChar hcharacter (by simp)
    obtain ⟨q, hq, htakes⟩ := exists_takes_of_awaits hawaits
    refine ⟨q, next, ?_, hnext, htakes⟩
    rw [← hq, ← hp, ← readByte_of_begins earlier hb]
    simp [pendingAfter]
  · rintro ⟨p, next, hp, hnext, htakes⟩
    obtain ⟨front, hne, hfront, hof⟩ := exists_isOf hp
    obtain ⟨back, hback⟩ := htakes.exists_awaits
    exact ⟨front, next, back, hof.2 _ hback, hne, hfront, hnext⟩

/-! ## Two chunks -/

lemma readByte_none_of_isTail {b : UInt8} (h : IsTail b) :
    readByte none b = ([replacementChar], none) := by
  obtain ⟨hlow, hhigh⟩ := h
  simp only [readByte, beginChar, Bool.and_eq_true, decide_eq_true_eq]
  rw [if_neg (by omega), if_neg (by omega), if_neg (by omega), if_neg (by omega)]

/-- Bytes that go on with a character in progress show no more than they do alone, if what follows
shows one character more at most behind a character in progress. -/
lemma length_decodeFrom_cons_le {p : PendingChar} (hp : p.TakesTails) {b : UInt8} (hb : p.Takes b)
    {bytes : List UInt8} (h : ∀ q : PendingChar, q.TakesTails →
      (decodeFrom (some q) bytes).length ≤ (decodeFrom none bytes).length + 1) :
    (decodeFrom (some p) (b :: bytes)).length ≤ (decodeFrom none (b :: bytes)).length := by
  rw [decodeFrom_cons, decodeFrom_cons,
    readByte_none_of_isTail ⟨hp.1.trans hb.1, hb.2.trans hp.2⟩, readByte_of_takes hb]
  split
  · simp
  · have := h ⟨p.wanted - 1, 0x80, 0xBF, p.bits * 64 + (b.toNat - 0x80)⟩ ⟨le_refl _, le_refl _⟩
    simp only [List.nil_append, List.singleton_append, List.length_cons]
    omega

/-- Bytes show one character more at most behind a character in progress. -/
lemma length_decodeFrom_some_le {p : PendingChar} (hp : p.TakesTails) (bytes : List UInt8) :
    (decodeFrom (some p) bytes).length ≤ (decodeFrom none bytes).length + 1 := by
  induction bytes generalizing p with
  | nil => simp [decodeFrom]
  | cons b bytes ih =>
    by_cases hb : p.Takes b
    · exact (length_decodeFrom_cons_le hp hb fun q hq => ih hq).trans (Nat.le_succ _)
    · rw [decodeFrom_cons, decodeFrom_cons, readByte_of_not_takes hb]
      simp only [readByte, List.cons_append, List.length_cons, le_refl]

/-- Two chunks show what they show together, unless the cut between them splits a character. -/
theorem decodeUtf8_append {a b : List UInt8} (h : ¬ SplitsCharacter a b) :
    decodeUtf8 (a ++ b) = decodeUtf8 a ++ decodeUtf8 b := by
  obtain ⟨shown, hshown⟩ := exists_decodeFrom_append none a
  have ha := hshown []
  rw [List.append_nil] at ha
  rw [decodeUtf8, decodeUtf8, decodeUtf8, hshown, ha, List.append_assoc]
  congr 1
  cases hp : pendingAfter none a with
  | none => rfl
  | some p =>
    cases b with
    | nil => rfl
    | cons c b =>
      have hc : ¬ p.Takes c := fun hc => h (splitsCharacter_iff.2 ⟨p, c, hp, rfl, hc⟩)
      rw [decodeFrom_cons, readByte_of_not_takes hc]
      rfl

/-- Two chunks show more than they show together if the cut between them splits a character. -/
lemma length_decodeUtf8_append_lt {a b : List UInt8} (h : SplitsCharacter a b) :
    (decodeUtf8 (a ++ b)).length < (decodeUtf8 a ++ decodeUtf8 b).length := by
  obtain ⟨p, next, hp, hnext, htakes⟩ := splitsCharacter_iff.1 h
  obtain ⟨-, -, -, htails, -⟩ := exists_isOf hp
  obtain ⟨b, rfl⟩ := List.head?_eq_some_iff.1 hnext
  obtain ⟨shown, hshown⟩ := exists_decodeFrom_append none a
  have ha := hshown []
  rw [List.append_nil, hp] at ha
  have hcut : decodeFrom (some p) [] = [replacementChar] := rfl
  rw [decodeUtf8, decodeUtf8, decodeUtf8, hshown, ha, hp, hcut]
  have := length_decodeFrom_cons_le htails htakes fun q hq => length_decodeFrom_some_le hq b
  simp only [List.length_append, List.length_singleton]
  omega

lemma length_decodeUtf8_append_le (a b : List UInt8) :
    (decodeUtf8 (a ++ b)).length ≤ (decodeUtf8 a ++ decodeUtf8 b).length := by
  by_cases h : SplitsCharacter a b
  · exact (length_decodeUtf8_append_lt h).le
  · exact (congrArg List.length (decodeUtf8_append h)).le

/-! ## Chunks in a row -/

lemma length_decodeUtf8_flatten_le (chunks : List (List UInt8)) :
    (decodeUtf8 chunks.flatten).length ≤ (chunks.flatMap decodeUtf8).length := by
  induction chunks with
  | nil => rfl
  | cons chunk chunks ih =>
    have := length_decodeUtf8_append_le chunk chunks.flatten
    rw [List.length_append] at this
    rw [List.flatten_cons, List.flatMap_cons, List.length_append]
    omega

/-- Chunks show what they show together exactly if no cut between them splits a character. -/
theorem flatMap_decodeUtf8_eq_iff {chunks : List (List UInt8)} :
    chunks.flatMap decodeUtf8 = decodeUtf8 chunks.flatten ↔ KeepsCharacters chunks := by
  induction chunks with
  | nil => exact ⟨fun _ => trivial, fun _ => rfl⟩
  | cons chunk chunks ih =>
    rw [List.flatMap_cons, List.flatten_cons, KeepsCharacters, ← ih]
    constructor
    · intro h
      have hkeeps : ¬ SplitsCharacter chunk chunks.flatten := by
        intro hsplits
        have hlt := length_decodeUtf8_append_lt hsplits
        have hle := length_decodeUtf8_flatten_le chunks
        rw [← h, List.length_append, List.length_append] at hlt
        omega
      exact ⟨hkeeps, List.append_cancel_left (h.trans (decodeUtf8_append hkeeps))⟩
    · rintro ⟨hkeeps, hrest⟩
      rw [decodeUtf8_append hkeeps, hrest]

end ProjectCheck.Text
