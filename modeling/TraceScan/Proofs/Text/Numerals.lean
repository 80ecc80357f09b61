import Mathlib.Data.List.Basic
import Mathlib.Data.Nat.Digits.Defs
import Mathlib.Tactic.IntervalCases
import Mathlib.Tactic.Ring
import TraceScan.Text.Numeral

/-!
# Numerals and their values

A text of digits denotes the number with these digits, and is read as this number if it is not too
large: `numeral?_eq_some`. The text of each number is such a text: `isNumeral_toString`.
-/

namespace TraceScan.Text

/-! ## Digits -/

/-- The digits of numbers. -/
def plainDigits : List Char :=
  ['0', '1', '2', '3', '4', '5', '6', '7', '8', '9']

/-- The plain digits are ten. -/
theorem mem_plainDigits {c : Char} (h : isPlainDigit c = true) : c ∈ plainDigits := by
  simp only [isPlainDigit, Bool.and_eq_true, decide_eq_true_eq, Char.le_def,
    UInt32.le_iff_toNat_le] at h
  obtain ⟨hlow, hhigh⟩ : 48 ≤ c.toNat ∧ c.toNat ≤ 57 := h
  have hc : c = Char.ofNat c.toNat := (Char.ofNat_toNat c).symm
  generalize c.toNat = n at hc hlow hhigh
  subst hc
  interval_cases n <;> decide

/-- A plain digit is a digit of some script. -/
theorem isDigit_of_isPlainDigit {c : Char} (h : isPlainDigit c = true) : isDigit c = true := by
  have hall : plainDigits.all isDigit = true := by decide +kernel
  exact List.all_eq_true.mp hall c (mem_plainDigits h)

/-- Whether a text is made of digits. -/
def IsDigits (s : List Char) : Prop :=
  s ≠ [] ∧ ∀ c ∈ s, isPlainDigit c = true

/-- The value of a digit. -/
def digitValue (c : Char) : Nat :=
  c.toNat - '0'.toNat

/-! ## Numbers -/

/-- Whether a text of digits denotes a number. -/
structure IsNumeral (s : List Char) (n : Nat) : Prop where
  digits : IsDigits s
  value : Nat.ofDigits 10 (s.reverse.map digitValue) = n

/-- Digits are read from the left behind a value. -/
theorem decimalAux_eq {s : List Char} (h : ∀ c ∈ s, isPlainDigit c = true) (value : Nat) :
    decimalAux value s =
      some (value * 10 ^ s.length + Nat.ofDigits 10 (s.reverse.map digitValue)) := by
  induction s generalizing value with
  | nil => simp [decimalAux]
  | cons c s ih =>
    obtain ⟨hc, hs⟩ := List.forall_mem_cons.mp h
    rw [decimalAux, if_pos hc, ih hs, List.reverse_cons, List.map_append, Nat.ofDigits_append,
      List.length_map, List.length_reverse, List.map_singleton, Nat.ofDigits_singleton,
      List.length_cons, digitValue]
    congr 1
    ring

/-- A text of digits has the value that it denotes. -/
theorem decimal?_eq_some {s : List Char} {n : Nat} (h : IsNumeral s n) : decimal? s = some n := by
  obtain ⟨⟨hne, hdigits⟩, hvalue⟩ := h
  obtain ⟨c, s, rfl⟩ := List.exists_cons_of_ne_nil hne
  rw [decimal?, decimalAux_eq hdigits, Nat.zero_mul, Nat.zero_add, hvalue]
  simp

/-- **Reading.** A text of digits is read as the number that it denotes, if that is not too
large. -/
theorem numeral?_eq_some {s : List Char} {n largest : Nat} (h : IsNumeral s n)
    (hn : n ≤ largest) : numeral? largest s = some n := by
  have hdecimal : decimal? s = some n := decimal?_eq_some h
  obtain ⟨⟨hne, hdigits⟩, -⟩ := h
  obtain ⟨c, s, rfl⟩ := List.exists_cons_of_ne_nil hne
  have hplus : c ≠ '+' := by
    rintro rfl
    have hdigit := hdigits '+' List.mem_cons_self
    revert hdigit
    decide
  unfold numeral?
  split
  · rename_i rest hcons
    exact absurd (List.cons.inj hcons).1 hplus
  · simp [hdecimal, hn]

/-- The text of a number denotes it. -/
theorem isNumeral_toString (n : Nat) : IsNumeral (toString n).toList n := by
  rw [Nat.toString_eq_ofList_toDigits, String.toList_ofList]
  have hdigit : ∀ d < 10, isPlainDigit d.digitChar = true ∧ digitValue d.digitChar = d := by
    decide
  induction n using Nat.strongRecOn with
  | ind n ih =>
    by_cases hn : n < 10
    · rw [Nat.toDigits_of_lt_base hn]
      refine ⟨⟨by simp, ?_⟩, ?_⟩
      · simpa using (hdigit n hn).1
      · simpa [Nat.ofDigits_singleton] using (hdigit n hn).2
    · -- the last digit comes behind those of a smaller number
      obtain ⟨⟨hne, hdigits⟩, hvalue⟩ := ih (n / 10) (by omega)
      have hlast := hdigit (n % 10) (Nat.mod_lt n (by decide))
      rw [Nat.toDigits_of_base_le (by decide) (by omega)]
      refine ⟨⟨by simp, ?_⟩, ?_⟩
      · intro c hc
        rcases List.mem_append.mp hc with hc | hc
        · exact hdigits c hc
        · obtain rfl := List.mem_singleton.mp hc
          exact hlast.1
      · rw [List.reverse_append, List.map_append, Nat.ofDigits_append, hvalue]
        simp only [List.reverse_singleton, List.map_singleton, List.length_singleton, hlast.2,
          Nat.ofDigits_singleton]
        omega

/-- Only the text of zero starts with a zero. -/
theorem eq_zero_of_head?_toString {n : Nat} (h : (toString n).toList.head? = some '0') : n = 0 := by
  rw [Nat.toString_eq_ofList_toDigits, String.toList_ofList] at h
  have hdigit : ∀ d < 10, d.digitChar = '0' → d = 0 := by decide
  induction n using Nat.strongRecOn with
  | ind n ih =>
    by_cases hn : n < 10
    · rw [Nat.toDigits_of_lt_base hn, List.head?_cons, Option.some.injEq] at h
      exact hdigit n hn h
    · -- the first digit is that of a smaller number, which is not zero
      rw [Nat.toDigits_of_base_le (by decide) (by omega)] at h
      have hne : Nat.toDigits 10 (n / 10) ≠ [] := Nat.toDigits_ne_nil
      rw [List.head?_append_of_ne_nil _ hne] at h
      have hzero := ih (n / 10) (by omega) h
      omega

end TraceScan.Text
