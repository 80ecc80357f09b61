import TraceScan.Proofs.Overflow

/-!
# What a window holds

The window around a line is meant to hold the lines that are at most its width away,
`Window.within`. It does so exactly when the sum of the line's index and the width is a 64-bit word:
`window_exact_iff_word`. A larger sum stops a build that checks its sums, at each line for which a
window is made. In a build whose sums wrap it starts again at zero, and the window then ends in
front of the line that it is for.
-/

namespace TraceScan

/-! ## Lines in reach -/

/-- The lines of a sequence that are at most `width` away from the line at `index`, and where among
them that line is. -/
def Window.within (lines : List String) (index width : Nat) : Window :=
  ⟨(lines.zipIdx.filter fun l => index ≤ l.2 + width ∧ l.2 ≤ index + width).map Prod.fst,
    min index width⟩

/-- The elements whose index lies in an interval are a segment of the list. -/
theorem map_fst_filter_zipIdx {α : Type} (l : List α) (start a b : Nat) :
    ((l.zipIdx start).filter fun x => a ≤ x.2 ∧ x.2 < b).map Prod.fst =
      (l.take (b - start)).drop (a - start) := by
  induction l generalizing start with
  | nil => simp
  | cons x l ih =>
    rw [List.zipIdx_cons, List.filter_cons]
    by_cases hb : start < b
    · rw [show b - start = b - (start + 1) + 1 by omega, List.take_succ_cons]
      by_cases ha : a ≤ start
      · rw [if_pos (by simp [ha, hb]), List.map_cons, ih, show a - start = 0 by omega,
          show a - (start + 1) = 0 by omega, List.drop_zero, List.drop_zero]
      · rw [if_neg (by simp [ha]), ih, show a - start = a - (start + 1) + 1 by omega,
          List.drop_succ_cons]
    · rw [if_neg (by simp [hb]), ih, show b - start = 0 by omega,
        show b - (start + 1) = 0 by omega, List.take_zero, List.take_zero, List.drop_nil,
        List.drop_nil]

/-- The lines in reach are the segment from `width` lines before the line to `width` lines behind
it. -/
theorem Window.lines_within (lines : List String) (index width : Nat) :
    (Window.within lines index width).lines =
      (lines.take (index + width + 1)).drop (index - width) := by
  have hcond : ∀ l : String × Nat, decide (index ≤ l.2 + width ∧ l.2 ≤ index + width) =
      decide (index - width ≤ l.2 ∧ l.2 < index + width + 1) := by
    intro l
    rw [decide_eq_decide]
    omega
  rw [within]
  simp only [hcond]
  rw [map_fst_filter_zipIdx, Nat.sub_zero, Nat.sub_zero]

/-- The line itself is in reach, where the window says. -/
theorem Window.getElem?_within (lines : List String) (index width : Nat) :
    (Window.within lines index width).lines[(Window.within lines index width).index]? =
      lines[index]? := by
  have hplace : index - width + min index width = index := by omega
  rw [lines_within, within, List.getElem?_drop, hplace, List.getElem?_take_of_lt (by omega)]

/-- A segment between wider bounds holds every segment between narrower ones. -/
theorem drop_take_infix {α : Type} (l : List α) {a a' b b' : Nat} (ha : a' ≤ a) (hb : b ≤ b') :
    (l.take b).drop a <:+: (l.take b').drop a' := by
  have hcut : (l.take b).drop a = (((l.take b').drop a').drop (a - a')).take (b - a) := by
    rw [List.drop_drop, Nat.add_sub_cancel' ha, List.drop_take, List.drop_take, List.take_take,
      Nat.min_eq_left (by omega)]
  rw [hcut]
  exact (List.take_prefix _ _).isInfix.trans (List.drop_suffix _ _).isInfix

/-- A wider window has all lines of a narrower one in reach, side by side as before. -/
theorem Window.lines_within_mono (lines : List String) (index : Nat) {v w : Nat} (h : v ≤ w) :
    (Window.within lines index v).lines <:+: (Window.within lines index w).lines := by
  rw [lines_within, lines_within]
  exact drop_take_infix lines (by omega) (by omega)

/-! ## Windows and words -/

/-- Where the far end is a word, the window holds the lines in reach. -/
theorem Window.around_eq_within {lines : List String} {index width : Nat}
    (hindex : index < lines.length) (h : index + width < UInt64.size) :
    Window.around lines index width = Window.within lines index width := by
  have hlines : lines.extract (index - width) (min (index + width) (lines.length - 1) + 1) =
      (Window.within lines index width).lines := by
    rw [lines_within, List.extract, ← List.drop_take]
    -- nothing more is taken behind the last line
    congr 1
    rw [List.take_eq_take_iff]
    omega
  have hplace : index - (index - width) = (Window.within lines index width).index := by
    show index - (index - width) = min index width
    omega
  rw [around_eq h, hlines, hplace]

/-- Where the far end is no word, the window ends before the line that it is for. -/
theorem Window.getElem?_around_of_overflow {lines : List String} {index width : Nat}
    (hindex : index < UInt64.size) (hwidth : width < UInt64.size)
    (h : UInt64.size ≤ index + width) :
    (Window.around lines index width).lines[(Window.around lines index width).index]? = none := by
  rw [around]
  generalize UInt64.size = size at hindex hwidth h ⊢
  have hwrap : (index + width) % size = index + width - size := by
    rw [Nat.mod_eq_sub_mod h, Nat.mod_eq_of_lt (by omega)]
  rw [hwrap, List.getElem?_eq_none_iff]
  simp only [List.length_take]
  omega

/-! ## Windows and matches -/

/-- The location that a visible line names when the grammars are shown `window`. -/
def Matcher.matchWith (m : Matcher) (window : Window) (line : String) (cwd : Option String)
    (position : Nat) : Option Location :=
  if line.isEmpty then none
  else (choose window (m.candidates line)).map fun c => m.locate c.1 c.2 cwd line position

/-- A line of a sequence is matched with the window around it. -/
theorem Matcher.matchInSequence_eq_matchWith (m : Matcher) {lines : List String} {i : Nat}
    (hi : i < lines.length) (cwd : Option String) (position : Nat) :
    m.matchInSequence lines i cwd position =
      m.matchWith (Window.around lines i m.window) lines[i] cwd position := by
  rw [matchInSequence, List.getElem?_eq_getElem hi, matchWith, Option.map_eq_bind]
  rfl

/-- The window does not matter to a line that is not contested. -/
theorem Matcher.matchWith_of_not_isContested (m : Matcher) {line : String}
    (h : ¬ m.IsContested line) (window window' : Window) (cwd : Option String) (position : Nat) :
    m.matchWith window line cwd position = m.matchWith window' line cwd position := by
  by_cases hempty : line.isEmpty = true
  · rw [matchWith, matchWith, if_pos hempty, if_pos hempty]
  · rw [matchWith, matchWith, if_neg hempty, if_neg hempty]
    have hne : line ≠ "" := by simpa using hempty
    obtain hc | ⟨c, hc⟩ := m.candidates_of_not_isContested hne h
    · rw [hc]
      rfl
    · rw [hc]
      rfl

/-- What a build that checks its sums does with a line: it is matched with the lines in reach, or it
is contested and the run stops. -/
theorem Matcher.checkedMatchInSequence_eq_ite (m : Matcher) {lines : List String} {i : Nat}
    (hi : i < lines.length) (cwd : Option String) (position : Nat) :
    m.checkedMatchInSequence lines i cwd position =
      if m.IsContested lines[i] ∧ UInt64.size ≤ i + m.window then .error ⟨i, m.window⟩
      else .ok (m.matchWith (Window.within lines i m.window) lines[i] cwd position) := by
  have hline := List.getElem?_eq_getElem hi
  by_cases hcontested : m.IsContested lines[i]
  · by_cases hover : UInt64.size ≤ i + m.window
    · rw [if_pos ⟨hcontested, hover⟩,
        m.checkedMatchInSequence_of_isContested hline hcontested,
        Window.checkedAround_of_le hover]
      rfl
    · have hword : i + m.window < UInt64.size := Nat.not_le.mp hover
      rw [if_neg fun h => hover h.2, ← Window.around_eq_within hi hword,
        ← m.matchInSequence_eq_matchWith hi]
      exact m.checkedMatchInSequence_eq_ok_iff.mpr ⟨fun _ _ _ => hword, rfl⟩
  · have hnone : ∀ line, lines[i]? = some line → ¬ m.IsContested line := by
      intro line hline'
      obtain rfl : lines[i] = line := Option.some.inj (hline.symm.trans hline')
      exact hcontested
    rw [if_neg fun h => hcontested h.1, m.checkedMatchInSequence_of_not_isContested hnone,
      m.matchInSequence_eq_matchWith hi, m.matchWith_of_not_isContested hcontested]

/-- **Exact windows.** The window that a matcher shows to the grammars holds the lines at most its
width away from the line, and says where among them the line is, exactly when the index and the
width add up to a 64-bit word. The line is then in the window, it is matched with these lines, and
no narrower window holds a line that is not in it. If the sum is no word, a build that checks its
sums makes no window: it stops if several grammars capture the line, and else matches the line,
which needs no window, as with the lines in reach. -/
theorem window_exact_iff_word (m : Matcher) {lines : List String} {i : Nat}
    (hi : i < lines.length) (hlines : lines.length ≤ UInt64.size) (hw : m.window < UInt64.size) :
    let exact := Window.within lines i m.window
    Window.checkedAround lines i m.window =
        (if UInt64.size ≤ i + m.window then .error ⟨i, m.window⟩ else .ok exact) ∧
      (Window.around lines i m.window = exact ↔ i + m.window < UInt64.size) ∧
      (∀ cwd position, m.checkedMatchInSequence lines i cwd position =
        if m.IsContested lines[i] ∧ UInt64.size ≤ i + m.window then .error ⟨i, m.window⟩
        else .ok (m.matchWith exact lines[i] cwd position)) ∧
      (i + m.window < UInt64.size →
        exact.lines[exact.index]? = some lines[i] ∧
        (∀ cwd position, m.matchInSequence lines i cwd position =
          m.matchWith exact lines[i] cwd position) ∧
        ∀ v ≤ m.window,
          (Window.around lines i v).lines <:+: (Window.around lines i m.window).lines) := by
  intro exact
  have hself : exact.lines[exact.index]? = some lines[i] :=
    (Window.getElem?_within lines i m.window).trans (List.getElem?_eq_getElem hi)
  refine ⟨?_, ⟨?_, Window.around_eq_within hi⟩, m.checkedMatchInSequence_eq_ite hi, ?_⟩
  · by_cases hover : UInt64.size ≤ i + m.window
    · rw [if_pos hover, Window.checkedAround_of_le hover]
    · have hword : i + m.window < UInt64.size := Nat.not_le.mp hover
      rw [if_neg hover, Window.checkedAround_of_lt hword, Window.around_eq_within hi hword]
  · intro heq
    by_contra hover
    have hnone : (Window.around lines i m.window).lines[(Window.around lines i m.window).index]? =
        none :=
      Window.getElem?_around_of_overflow (lt_of_lt_of_le hi hlines) hw (Nat.le_of_not_lt hover)
    rw [heq, hself] at hnone
    cases hnone
  · intro hword
    refine ⟨hself, ?_, ?_⟩
    · intro cwd position
      rw [m.matchInSequence_eq_matchWith hi, Window.around_eq_within hi hword]
    · intro v hv
      rw [Window.around_eq_within hi hword, Window.around_eq_within hi (by omega)]
      exact Window.lines_within_mono lines i hv

/-- The window of width one around a note holds its cue, and the note is matched with it. -/
theorem window_behind_cue :
    let m := Registry.notes.matcher 1 (some "/home")
    let lines := ["one", "two", "todo:8"]
    Window.around lines 2 m.window = Window.within lines 2 1 ∧
      (Window.within lines 2 1).lines = ["two", "todo:8"] ∧
      m.checkedMatchInSequence lines 2 none 3 =
        .ok (m.matchWith (Window.within lines 2 1) "todo:8" none 3) ∧
      (m.matchWith (Window.within lines 2 1) "todo:8" none 3).map Location.grammar =
        some "second" := by
  intro m lines
  obtain ⟨-, hexact, hchecked, -⟩ :=
    @window_exact_iff_word m lines 2 (by decide) (by decide) (by decide)
  refine ⟨hexact.mpr (by decide), by decide +kernel, ?_, by decide +kernel⟩
  exact (hchecked none 3).trans (if_neg fun h => absurd h.2 (by decide))

/-- The widest window but one around a note stops a build that checks its sums. In a build whose
sums wrap it loses the note and its cue, which the window of width one holds, and another grammar
wins. -/
theorem wide_window_loses_cue :
    let lines := ["one", "two", "todo:8"]
    let wide := Registry.notes.matcher (UInt64.size - 2) (some "/home")
    wide.window < UInt64.size ∧
      wide.checkedMatchInSequence lines 2 none 3 = .error ⟨2, UInt64.size - 2⟩ ∧
      (Window.around lines 2 wide.window).lines = ["one"] ∧
      (Window.within lines 2 wide.window).lines = lines ∧
      (Window.around lines 2 1).lines = ["two", "todo:8"] ∧
      (wide.matchInSequence lines 2 none 3).map Location.grammar = some "first" ∧
      (wide.matchWith (Window.within lines 2 wide.window) "todo:8" none 3).map Location.grammar =
        some "second" ∧
      ((Registry.notes.matcher 1 (some "/home")).matchInSequence lines 2 none 3).map
        Location.grammar = some "second" := by
  intro lines wide
  have hstops : wide.checkedMatchInSequence lines 2 none 3 = .error ⟨2, UInt64.size - 2⟩ :=
    (wide.checkedMatchInSequence_eq_ite (by decide) none 3).trans (if_pos (by decide +kernel))
  refine ⟨by decide, hstops, ?_⟩
  decide +kernel

end TraceScan
