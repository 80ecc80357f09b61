import TraceScan.Text.Blank
import TraceScan.Text.Casing
import TraceScan.Text.Word

/-!
# Sets of characters

What a pattern may ask of one character, kept as an expression so that membership follows the way
the set was written: `[^\s:]` is the complement of a union.
-/

namespace TraceScan

/-- A set of characters. -/
inductive CharSet where
  /-- No character. -/
  | empty
  /-- Every character. -/
  | any
  /-- The characters from `first` to `last`. -/
  | range (first last : Char)
  /-- The blank characters. -/
  | blank
  /-- The decimal digits of every script. -/
  | digit
  /-- The word characters of every script. -/
  | word
  /-- The characters of a table. -/
  | table (ranges : Text.RangeTable)
  | union (s t : CharSet)
  | inter (s t : CharSet)
  | compl (s : CharSet)
  /-- The characters that agree up to case with one of `s`. -/
  | folded (s : CharSet)

namespace CharSet

/-- Membership in a set. -/
def mem : CharSet → Char → Bool
  | empty, _ => false
  | any, _ => true
  | range first last, c => first ≤ c && c ≤ last
  | blank, c => Text.isBlank c
  | digit, c => Text.isDigit c
  | word, c => Text.isWord c
  | table ranges, c => ranges.mem c
  | union s t, c => s.mem c || t.mem c
  | inter s t, c => s.mem c && t.mem c
  | compl s, c => !s.mem c
  | folded s, c => s.mem c || (Text.caseVariants c).any s.mem

/-- The set of one character. -/
def single (c : Char) : CharSet := range c c

/-- The characters of `s` that are not in `t`. -/
def diff (s t : CharSet) : CharSet := inter s (compl t)

/-- The characters in exactly one of two sets. -/
def symmDiff (s t : CharSet) : CharSet := union (diff s t) (diff t s)

/-- The union of a list of sets. -/
def unions : List CharSet → CharSet
  | [] => empty
  | [s] => s
  | s :: rest => union s (unions rest)

@[simp] theorem mem_single {a c : Char} : (single a).mem c = true ↔ c = a := by
  simp only [single, mem, Bool.and_eq_true, decide_eq_true_eq]
  exact ⟨fun h => Char.le_antisymm h.2 h.1, fun h => h ▸ ⟨Char.le_refl _, Char.le_refl _⟩⟩

end CharSet

end TraceScan
