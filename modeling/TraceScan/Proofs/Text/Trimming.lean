import Mathlib.Data.List.DropRight
import TraceScan.Text.Blank

/-!
# What trimming leaves

Trimming leaves a text that has no blank at either end, so that nothing is left to trim:
`trim_trim`. What it leaves is a part of the text: `infix_trim`.
-/

namespace TraceScan.Text

/-- Trimming the end drops the longest blank end. -/
theorem trimEnd_eq_rdropWhile (s : List Char) : trimEnd s = s.rdropWhile isBlank :=
  rfl

/-- A text that starts with no blank still does when its end is trimmed. -/
theorem trimStart_trimEnd {s : List Char} (h : trimStart s = s) :
    trimStart (trimEnd s) = trimEnd s := by
  rw [trimStart, List.dropWhile_eq_self_iff] at h ⊢
  intro hpos
  have hpart : trimEnd s <+: s := by
    rw [trimEnd_eq_rdropWhile]
    exact List.rdropWhile_prefix isBlank s
  rw [hpart.getElem hpos]
  exact h (lt_of_lt_of_le hpos hpart.length_le)

/-- Trimming twice is trimming once. -/
theorem trim_trim (s : List Char) : trim (trim s) = trim s := by
  have hstart : trimStart (trim s) = trim s :=
    trimStart_trimEnd (List.dropWhile_idempotent isBlank s)
  calc trim (trim s)
      = trimEnd (trim s) := by rw [trim, hstart]
    _ = trim s := by
        rw [trim, trimEnd_eq_rdropWhile, trimEnd_eq_rdropWhile]
        exact List.rdropWhile_idempotent isBlank _

/-- Trimming a string twice is trimming it once. -/
theorem trimmed_trimmed (s : String) : trimmed (trimmed s) = trimmed s := by
  rw [trimmed, trimmed, String.toList_ofList, trim_trim]

/-- Trimming leaves a part of the text. -/
theorem infix_trim (s : List Char) : trim s <:+: s := by
  have hstart : trimStart s <:+ s := List.dropWhile_suffix isBlank
  have hend : trim s <+: trimStart s := by
    rw [trim, trimEnd_eq_rdropWhile]
    exact List.rdropWhile_prefix isBlank _
  exact hend.isInfix.trans hstart.isInfix

/-- Something is left of a text in which not all is blank. -/
theorem trim_ne_nil {s : List Char} (h : ∃ c ∈ s, isBlank c = false) : trim s ≠ [] := by
  obtain ⟨c, hmem, hc⟩ := h
  have hstart : trimStart s ≠ [] := by
    intro hnil
    have hall := List.dropWhile_eq_nil_iff.mp hnil c hmem
    rw [hc] at hall
    cases hall
  -- the first character that is left is no blank, so the end is not trimmed beyond it
  rw [trim, trimEnd_eq_rdropWhile]
  intro hnil
  have hhead := List.head_dropWhile_not isBlank hstart
  have hall := List.rdropWhile_eq_nil_iff.mp hnil _ (List.head_mem hstart)
  exact Bool.false_ne_true (hhead.symm.trans hall)

/-- Only the start is trimmed off a text that ends in no blank. -/
theorem trim_eq_trimStart {s : List Char} (h : ∀ c ∈ s.getLast?, isBlank c = false) :
    trim s = trimStart s := by
  rw [trim, trimEnd_eq_rdropWhile, List.rdropWhile_eq_self_iff]
  intro hne
  obtain ⟨front, hfront⟩ : trimStart s <:+ s := List.dropWhile_suffix isBlank
  have hlast : s.getLast? = some ((trimStart s).getLast hne) := by
    calc s.getLast?
        = (front ++ trimStart s).getLast? := by rw [hfront]
      _ = (trimStart s).getLast? := List.getLast?_append_of_ne_nil front hne
      _ = some ((trimStart s).getLast hne) := List.getLast?_eq_some_getLast hne
  simp [h _ hlast]

/-- Nothing is trimmed off a text without blanks. -/
theorem trim_eq_self {s : List Char} (h : ∀ c ∈ s, isBlank c = false) : trim s = s := by
  have hstart : trimStart s = s := by
    rw [trimStart, List.dropWhile_eq_self_iff]
    intro hpos
    simp [h _ (List.getElem_mem hpos)]
  rw [trim, hstart, trimEnd_eq_rdropWhile, List.rdropWhile_eq_self_iff]
  intro hne
  simp [h _ (List.getLast_mem hne)]

end TraceScan.Text
