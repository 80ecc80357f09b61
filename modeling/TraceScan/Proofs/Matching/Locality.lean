import TraceScan.Proofs.Matching.Sequence

/-!
# Locality

Whatever the opinions of the grammars are, the location of a line in a sequence depends on the lines
of its window only. So the line gets the same location in its window alone, whose own window at that
place is all of it again, and in any other sequence that has this window around it:
`matchInSequence_goes_by_view`.
-/

namespace TraceScan

/-- The lines that the window of the given width around the line at `index` takes out of a
sequence. -/
def Window.view (lines : List String) (index width : Nat) : List String :=
  lines.extract (index - width) (min (index + width) (lines.length - 1) + 1)

namespace Matcher

variable (m : Matcher)

/-- Lines behind the last one in reach do not matter to a line, whether there are any or not. -/
theorem matchInSequence_take_view {lines : List String} {index : Nat}
    (hwidth : index + m.window < UInt64.size) (cwd : Option String) (position : Nat) :
    m.matchInSequence (lines.take (min (index + m.window) (lines.length - 1) + 1)) index cwd
      position = m.matchInSequence lines index cwd position := by
  by_cases hcut : index + m.window ≤ lines.length - 1
  · rw [Nat.min_eq_left hcut]
    exact m.matchInSequence_take (Nat.lt_succ_self _) hwidth cwd position
  · -- the window reaches the end of the sequence
    rw [Nat.min_eq_right (by omega), List.take_of_length_le (by omega)]

/-- In the lines of its window alone, a line gets the location that it gets in the sequence. -/
theorem matchInSequence_view {lines : List String} {index : Nat}
    (hwidth : index + m.window < UInt64.size) (cwd : Option String) (position : Nat) :
    m.matchInSequence (Window.view lines index m.window) (index - (index - m.window)) cwd
      position = m.matchInSequence lines index cwd position := by
  rw [Window.view, List.extract, ← List.drop_take,
    m.matchInSequence_drop (Nat.le_refl _) hwidth, m.matchInSequence_take_view hwidth]

end Matcher

/-- **Locality.** A line of a sequence gets the location that it gets in the lines of its window
alone, at its place in them. Hence two sequences that have the same window around a line, with the
line at the same place in it, give the line the same location, whatever else they hold, however long
they are and wherever in them the line stands. -/
theorem matchInSequence_goes_by_view (m : Matcher) {lines : List String} {i : Nat}
    (hi : i + m.window < UInt64.size) (cwd : Option String) (position : Nat) :
    m.matchInSequence lines i cwd position =
        m.matchInSequence (Window.view lines i m.window) (i - (i - m.window)) cwd position ∧
      ∀ (lines' : List String) (i' : Nat), i' + m.window < UInt64.size →
        Window.view lines' i' m.window = Window.view lines i m.window →
        i' - (i' - m.window) = i - (i - m.window) →
        m.matchInSequence lines' i' cwd position = m.matchInSequence lines i cwd position := by
  have hself := @m.matchInSequence_view lines i hi cwd position
  refine ⟨hself.symm, ?_⟩
  intro lines' i' hi' hview hplace
  rw [← m.matchInSequence_view hi', hview, hplace, hself]

/-- A note with its cue before it has the same location in the two sequences, and in their common
window, although it is the third line of the one and the second line of the other. -/
theorem note_in_two_sequences :
    let m := Registry.notes.matcher 1 (some "/home")
    let long := ["one", "two", "todo:8"]
    let short := ["two", "todo:8"]
    2 + m.window < UInt64.size ∧ 1 + m.window < UInt64.size ∧
      m.matchInSequence long 2 none 3 = m.matchInSequence short 1 none 3 ∧
      (m.matchInSequence short 1 none 3).map Location.grammar = some "second" := by
  intro m long short
  have hlong : 2 + m.window < UInt64.size := by decide
  have hshort : 1 + m.window < UInt64.size := by decide
  have hlocal := @matchInSequence_goes_by_view m short 1 hshort none 3
  exact ⟨hlong, hshort, hlocal.2 long 2 hlong (by decide) (by decide), by decide +kernel⟩

end TraceScan
