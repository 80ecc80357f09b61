import TraceScan.Proofs.RollingView

/-!
# What a rolling view recalls

Lines come to a view one by one or several at a time, and its capacity may change in between. In
whatever order that happens, the view keeps the last of all lines that came, it finds each of them
at the position that the line has among all, and it lets no more of them fall out than it must. This
is `view_recalls_history`. What has fallen out stays out, whatever the capacity becomes.
-/

namespace TraceScan.RollingView

/-! ## Changes -/

/-- A change of a view. -/
inductive Change where
  | push (line : String)
  | extend (lines : List String)
  | resize (capacity : Nat)

/-- The lines that come with a change. -/
def Change.lines : Change → List String
  | .push line => [line]
  | .extend lines => lines
  | .resize _ => []

/-- The capacity that a change leads to. -/
def Change.capacity (old : Nat) : Change → Nat
  | .push _ => old
  | .extend _ => old
  | .resize capacity => capacity

/-- The view after a change. -/
def apply (v : RollingView) : Change → RollingView
  | .push line => v.push line
  | .extend lines => v.extend lines
  | .resize capacity => v.resize capacity

/-- The view after some changes. -/
def run (v : RollingView) (changes : List Change) : RollingView :=
  changes.foldl apply v

/-- All lines that come with some changes. -/
def pushed (changes : List Change) : List String :=
  changes.flatMap Change.lines

/-! ## What a change does -/

section Change

variable {v : RollingView} {lines : List String}

/-- **Steps.** A change keeps a view at the end of the lines that came. -/
theorem ShowsEnd.apply (h : v.ShowsEnd lines) (change : Change) :
    (v.apply change).ShowsEnd (lines ++ change.lines) := by
  cases change with
  | push line => exact h.extend [line]
  | extend more => exact h.extend more
  | resize capacity =>
    rw [Change.lines, List.append_nil]
    exact h.resize capacity

/-- A change leads to the capacity that it says. -/
theorem capacity_apply (hv : v.size ≤ v.capacity) (change : Change) :
    (v.apply change).capacity = change.capacity v.capacity := by
  cases change with
  | push line => rw [RollingView.apply, push_eq hv, Change.capacity]
  | extend more => rw [RollingView.apply, extend_eq hv, Change.capacity]
  | resize capacity => rfl

/-- A change lets lines fall out only where the capacity does not reach. -/
theorem size_apply (hv : v.size ≤ v.capacity) (change : Change) :
    (v.apply change).size =
      min (v.size + change.lines.length) (change.capacity v.capacity) := by
  have hextend : ∀ more : List String,
      (v.extend more).size = min (v.size + more.length) v.capacity := by
    intro more
    have hsize : v.size = v.lines.length := rfl
    rw [extend_eq hv, size, List.length_drop, List.length_append]
    omega
  cases change with
  | push line => exact hextend [line]
  | extend more => exact hextend more
  | resize capacity =>
    have hsize : (v.resize capacity).size = v.size - (v.size - capacity) := List.length_drop
    rw [RollingView.apply, Change.lines, Change.capacity, List.length_nil, hsize]
    omega

/-- The oldest line that is kept after a change is no earlier one. -/
theorem first_le_apply (hv : v.size ≤ v.capacity) (change : Change) :
    v.first ≤ (v.apply change).first := by
  cases change with
  | push line =>
    rw [RollingView.apply, push_eq hv]
    exact Nat.le_add_right _ _
  | extend more =>
    rw [RollingView.apply, extend_eq hv]
    exact Nat.le_add_right _ _
  | resize capacity => exact Nat.le_add_right _ _

end Change

/-! ## Runs -/

/-- **Runs.** Some changes keep a view at the end of the lines that came. -/
theorem ShowsEnd.run {v : RollingView} {lines : List String} (h : v.ShowsEnd lines)
    (changes : List Change) : (v.run changes).ShowsEnd (lines ++ pushed changes) := by
  induction changes generalizing v lines with
  | nil =>
    rw [pushed, List.flatMap_nil, List.append_nil]
    exact h
  | cons change changes ih =>
    rw [pushed, List.flatMap_cons, ← List.append_assoc]
    exact ih (h.apply change)

/-- What has fallen out of a view stays out. -/
theorem ShowsEnd.first_le_run {v : RollingView} {lines : List String} (h : v.ShowsEnd lines)
    (changes : List Change) : v.first ≤ (v.run changes).first := by
  induction changes generalizing v lines with
  | nil => exact Nat.le_refl _
  | cons change changes ih =>
    exact Nat.le_trans (first_le_apply h.fits change) (ih (h.apply change))

/-! ## What a view recalls -/

/-- What a view tells of the lines that came to it. -/
structure Recalls (v : RollingView) (lines : List String) : Prop where
  /-- No more lines are kept than the capacity allows. -/
  fits : v.size ≤ v.capacity
  /-- The lines that are kept are the last ones. -/
  lines_eq : v.lines = lines.drop (lines.length - v.size)
  /-- The lines that are not kept and those that are make up all lines. -/
  first_add_size : v.first + v.size = lines.length + 1
  /-- A line is found at its own position, from the oldest one that is kept to the last one. -/
  get?_eq_some_iff : ∀ p line,
    v.get? p = some line ↔ v.first ≤ p ∧ p ≤ lines.length ∧ lines[p - 1]? = some line
  /-- Nothing is found anywhere else. -/
  get?_eq_none_iff : ∀ p, v.get? p = none ↔ ¬ (v.first ≤ p ∧ p ≤ lines.length)
  /-- The last lines of the view are the last ones of all, as many as are kept. -/
  tail_eq : ∀ n, v.tail n = lines.drop (lines.length - min n v.size)

/-- A view that shows the end of some lines recalls them. -/
theorem ShowsEnd.recalls {v : RollingView} {lines : List String} (h : v.ShowsEnd lines) :
    v.Recalls lines := by
  have hpos := h.first_pos
  have hcount := h.first_add_size
  have hsize : v.size = v.lines.length := rfl
  have hcut : lines.length - v.size = v.first - 1 := by omega
  have hget : ∀ p, v.first ≤ p → v.get? p = lines[p - 1]? := by
    intro p hp
    rw [get?, if_pos hp, h.lines_eq, List.getElem?_drop, show v.first - 1 + (p - v.first) = p - 1 by
      omega]
  refine ⟨h.fits, ?_, hcount, ?_, ?_, ?_⟩
  · rw [hcut]
    exact h.lines_eq
  · intro p line
    constructor
    · intro hline
      by_cases hp : v.first ≤ p
      · rw [hget p hp] at hline
        have hlt := (List.getElem?_eq_some_iff.mp hline).1
        exact ⟨hp, by omega, hline⟩
      · rw [get?, if_neg hp] at hline
        cases hline
    · rintro ⟨hp, -, hline⟩
      rw [hget p hp, hline]
  · intro p
    by_cases hp : v.first ≤ p
    · rw [hget p hp, List.getElem?_eq_none_iff]
      omega
    · rw [get?, if_neg hp]
      exact iff_of_true rfl (by omega)
  · intro n
    rw [tail, h.lines_eq, List.drop_drop]
    congr 1
    omega

/-- **Recall.** After every sequence of changes, a view that was new at first recalls all lines that
came, in their order and each at its position. The next change leads to the capacity that it says,
and lets no line fall out that this capacity has room for; so a push into a view that is not full
only adds its line. Whatever changes come then, no line that has fallen out is found again. -/
theorem view_recalls_history (capacity : Nat) (changes : List Change) :
    let v := run { capacity := capacity } changes
    v.Recalls (pushed changes) ∧
      (∀ change, (v.apply change).capacity = change.capacity v.capacity ∧
        (v.apply change).size =
          min (v.size + change.lines.length) (change.capacity v.capacity)) ∧
      (∀ line, v.size < v.capacity →
        (v.push line).first = v.first ∧ (v.push line).lines = v.lines ++ [line]) ∧
      ∀ later, (v.run later).lines <:+ v.lines ++ pushed later ∧
        ∀ p < v.first, (v.run later).get? p = none := by
  intro v
  have hends : v.ShowsEnd (pushed changes) := by
    have h := (showsEnd_nil capacity).run changes
    rwa [List.nil_append] at h
  refine ⟨hends.recalls, ?_, ?_, ?_⟩
  · intro change
    exact ⟨capacity_apply hends.fits change, size_apply hends.fits change⟩
  · intro line hroom
    have hcut : v.size + 1 - v.capacity = 0 := by omega
    rw [push_eq hends.fits, hcut]
    exact ⟨rfl, rfl⟩
  · intro later
    have hlater := hends.run later
    have hfirst := hends.first_le_run later
    have hpos := hends.first_pos
    refine ⟨?_, ?_⟩
    · -- both are ends of all lines, and the later view starts no earlier
      have hcut : v.first - 1 ≤ (pushed changes).length := by
        have := hends.first_le
        omega
      rw [hlater.lines_eq, hends.lines_eq, ← List.drop_append_of_le_length hcut]
      exact List.drop_suffix_drop_left _ (by omega)
    · intro p hp
      rw [hlater.recalls.get?_eq_none_iff]
      omega

/-- Three lines fall out of a view that is cut down to nothing, and a fourth one that comes then.
With room again the view takes a fifth one, and the third one is not found any more. -/
theorem fifth_line_after_no_room :
    let v := run { capacity := 2 }
      [.push "a", .extend ["b", "c"], .resize 0, .push "d", .resize 3]
    (v.size < v.capacity ∧ (v.push "e").first = 5 ∧ (v.push "e").lines = ["e"]) ∧
      3 < v.first ∧ (v.run [.push "e", .resize 9]).get? 3 = none := by
  intro v
  have hrecall := view_recalls_history 2
    [.push "a", .extend ["b", "c"], .resize 0, .push "d", .resize 3]
  have hroom : v.size < v.capacity := by decide
  have hgone : 3 < v.first := by decide
  obtain ⟨hfirst, hlines⟩ := hrecall.2.2.1 "e" hroom
  exact ⟨⟨hroom, hfirst, hlines⟩, hgone, (hrecall.2.2.2 [.push "e", .resize 9]).2 3 hgone⟩

end TraceScan.RollingView
