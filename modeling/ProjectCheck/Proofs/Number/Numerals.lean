import Mathlib.Tactic.Lemma
import ProjectCheck.Number.Notation
import ProjectCheck.Number.Reading

/-!
# Numerals

A numeral is a text of digits, of any script.  A numeral that is not too long has a value
(`exists_readDigits`), and the decimal digits of a number are a numeral with this number as its
value (`readDigits_decimalDigits`).
-/

namespace ProjectCheck.Number

open ProjectCheck.Text

/-- A text of digits, at least one. -/
def IsNumeral (s : List Char) : Prop :=
  s ≠ [] ∧ ∀ c ∈ s, isDecimal c = true

lemma isNumeral_iff {s : List Char} : IsNumeral s ↔ s ≠ [] ∧ s.all isDecimal = true := by
  rw [IsNumeral, List.all_eq_true]

-- Only the characters of the text are looked at, not all characters there are.
instance (s : List Char) : Decidable (IsNumeral s) :=
  decidable_of_iff _ isNumeral_iff.symm

/-- Every digit of a numeral has a value. -/
lemma exists_mapM_digitValue? {s : List Char} (h : ∀ c ∈ s, isDecimal c = true) :
    ∃ digits : List Nat, s.mapM digitValue? = some digits ∧ digits.length = s.length := by
  induction s with
  | nil => exact ⟨[], rfl, rfl⟩
  | cons c s ih =>
    obtain ⟨digits, hdigits, hlen⟩ := ih fun d hd => h d (List.mem_cons_of_mem c hd)
    obtain ⟨d, hd⟩ := Option.isSome_iff_exists.1 (h c List.mem_cons_self)
    exact ⟨d :: digits, by simp [hd, hdigits], by simp [hlen]⟩

lemma readDigits_of_mapM {s : List Char} {digits : List Nat} (h : s.mapM digitValue? = some digits)
    (hne : digits ≠ []) (hlen : digits.length ≤ integerDigitLimit) :
    readDigits s = .ok (valueOfDigits digits) := by
  rw [readDigits, h]
  cases digits with
  | nil => contradiction
  | cons d digits => exact if_neg (by omega)

/-- A numeral with no more digits than allowed has a value. -/
theorem exists_readDigits {s : List Char} (h : IsNumeral s) (hlen : s.length ≤ integerDigitLimit) :
    ∃ n, readDigits s = .ok n := by
  obtain ⟨digits, hdigits, hcount⟩ := exists_mapM_digitValue? h.2
  have hne : digits ≠ [] := by
    rintro rfl
    exact h.1 (List.length_eq_zero_iff.1 hcount.symm)
  exact ⟨_, readDigits_of_mapM hdigits hne (hcount ▸ hlen)⟩

/-! ## Decimal digits -/

lemma digitValue?_of_isDigit {c : Char} (h : c.isDigit = true) :
    digitValue? c = some (c.toNat - '0'.toNat) := by
  have hrange : 48 ≤ c.toNat ∧ c.toNat ≤ 57 := Char.isDigit_iff_toNat.1 h
  have hzeros : digitZeros = 48 :: digitZeros.tail := rfl
  rw [digitValue?, hzeros, List.find?_cons_of_pos]
  · rfl
  · simp only [Bool.and_eq_true, decide_eq_true_eq]
    omega

lemma isDigit_of_mem_decimalDigits {n : Nat} {c : Char} (h : c ∈ decimalDigits n) :
    c.isDigit = true :=
  Nat.isDigit_of_mem_toDigits (by decide) (by decide) h

lemma isNumeral_decimalDigits (n : Nat) : IsNumeral (decimalDigits n) := by
  refine ⟨Nat.toDigits_ne_nil, fun c hc => ?_⟩
  rw [isDecimal, digitValue?_of_isDigit (isDigit_of_mem_decimalDigits hc)]
  rfl

lemma mapM_digitValue?_of_isDigit {s : List Char} (h : ∀ c ∈ s, c.isDigit = true) :
    s.mapM digitValue? = some (s.map fun c => c.toNat - '0'.toNat) := by
  induction s with
  | nil => rfl
  | cons c s ih =>
    rw [List.mapM_cons, digitValue?_of_isDigit (h c List.mem_cons_self),
      ih fun d hd => h d (List.mem_cons_of_mem c hd)]
    rfl

/-- **A number is read back from its digits.** -/
theorem readDigits_decimalDigits {n : Nat} (h : (decimalDigits n).length ≤ integerDigitLimit) :
    readDigits (decimalDigits n) = .ok n := by
  have hdigits := mapM_digitValue?_of_isDigit fun c (hc : c ∈ decimalDigits n) =>
    isDigit_of_mem_decimalDigits hc
  have hvalue : valueOfDigits ((decimalDigits n).map fun c => c.toNat - '0'.toNat) = n := by
    rw [valueOfDigits, List.foldl_map, ← Nat.ofDigitChars_eq_foldl]
    exact Nat.ofDigitChars_ten_toDigits
  rw [readDigits_of_mapM hdigits, hvalue]
  · rw [ne_eq, List.map_eq_nil_iff]
    exact (isNumeral_decimalDigits n).1
  · rwa [List.length_map]

end ProjectCheck.Number
