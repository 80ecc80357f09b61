import TraceScan.Text.Word

/-!
# Characters one by one

A property of all letters, or of all characters of some small range, can be checked on their list.
-/

namespace TraceScan.Text

/-- The characters from `first` to `last`. -/
def charsBetween (first last : Char) : List Char :=
  (List.range' first.toNat (last.toNat + 1 - first.toNat)).map Char.ofNat

/-- A character between two others is one of the list. -/
theorem mem_charsBetween {first last c : Char} (hfirst : first ≤ c) (hlast : c ≤ last) :
    c ∈ charsBetween first last := by
  rw [Char.le_def, UInt32.le_iff_toNat_le] at hfirst hlast
  replace hfirst : first.toNat ≤ c.toNat := hfirst
  replace hlast : c.toNat ≤ last.toNat := hlast
  refine List.mem_map.mpr ⟨c.toNat, ?_, Char.ofNat_toNat c⟩
  rw [List.mem_range'_1]
  omega

/-- The letters of the first 128 characters. -/
def plainLetters : List Char :=
  charsBetween 'a' 'z' ++ charsBetween 'A' 'Z'

/-- Each plain letter is one of them. -/
theorem mem_plainLetters {c : Char} (h : isPlainLetter c = true) : c ∈ plainLetters := by
  simp only [isPlainLetter, Bool.or_eq_true, Bool.and_eq_true, decide_eq_true_eq] at h
  rcases h with ⟨hfirst, hlast⟩ | ⟨hfirst, hlast⟩
  · exact List.mem_append_left _ (mem_charsBetween hfirst hlast)
  · exact List.mem_append_right _ (mem_charsBetween hfirst hlast)

end TraceScan.Text
