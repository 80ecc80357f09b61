import TraceScan.RollingView

/-!
# What a rolling view keeps

A view that keeps no more than its capacity holds, after more lines have come, the last lines of all
that it held and of those that came: `extend_eq`. The last lines of a view that started empty are
therefore the last lines of all that came, as far as the capacity reaches. However the capacity
changes in between, a view shows the end of all lines that came, and shows each of them at its own
position: `ShowsEnd`.
-/

namespace TraceScan.RollingView

/-- Cutting off `b` elements behind a list that was cut before. -/
theorem drop_append_drop {α : Type} {l₁ l₂ : List α} {a : Nat} (ha : a ≤ l₁.length) (b : Nat) :
    (l₁.drop a ++ l₂).drop b = (l₁ ++ l₂).drop (a + b) := by
  rw [← List.drop_append_of_le_length ha, List.drop_drop]

/-- A line goes to the end, and what is over the capacity falls out in front. -/
theorem push_eq {v : RollingView} (hv : v.size ≤ v.capacity) (line : String) :
    v.push line = { v with
      lines := (v.lines ++ [line]).drop (v.size + 1 - v.capacity)
      first := v.first + (v.size + 1 - v.capacity) } := by
  have hsize : v.size = v.lines.length := rfl
  unfold push
  by_cases hzero : v.capacity = 0
  · have hnil : v.lines = [] := List.eq_nil_of_length_eq_zero (by omega)
    have hcut : v.size + 1 - v.capacity = 1 := by omega
    have hlines : (v.lines ++ [line]).drop 1 = v.lines := by rw [hnil]; rfl
    rw [if_pos hzero, hcut, hlines]
  · by_cases hfull : v.size = v.capacity
    · have hcut : v.size + 1 - v.capacity = 1 := by omega
      rw [if_neg hzero, hcut, List.drop_append_of_le_length (by omega)]
      simp only [if_pos hfull, drop]
    · have hcut : v.size + 1 - v.capacity = 0 := by omega
      rw [if_neg hzero, hcut, List.drop_zero, Nat.add_zero]
      simp only [if_neg hfull]

/-- **Extension.** Lines go to the end, and what is over the capacity falls out in front. -/
theorem extend_eq {v : RollingView} (hv : v.size ≤ v.capacity) (lines : List String) :
    v.extend lines = { v with
      lines := (v.lines ++ lines).drop (v.size + lines.length - v.capacity)
      first := v.first + (v.size + lines.length - v.capacity) } := by
  induction lines generalizing v with
  | nil =>
    have hcut : v.size + ([] : List String).length - v.capacity = 0 := by
      rw [List.length_nil]
      omega
    rw [hcut, List.append_nil, List.drop_zero, Nat.add_zero]
    rfl
  | cons line lines ih =>
    have hpush := push_eq hv line
    have hsize : (v.push line).size = v.size + 1 - (v.size + 1 - v.capacity) := by
      rw [hpush, size, List.length_drop, List.length_append, List.length_singleton]
      rfl
    have hcapacity : (v.push line).capacity = v.capacity := by rw [hpush]
    rw [extend, List.foldl_cons, ← extend, ih (by omega), hsize, hcapacity, hpush]
    have hcut : v.size + 1 - v.capacity +
        (v.size + 1 - (v.size + 1 - v.capacity) + lines.length - v.capacity) =
          v.size + (line :: lines).length - v.capacity := by
      rw [List.length_cons]
      omega
    have hlength : v.size + 1 - v.capacity ≤ (v.lines ++ [line]).length := by
      rw [List.length_append, List.length_singleton]
      have : v.size = v.lines.length := rfl
      omega
    rw [drop_append_drop hlength, Nat.add_assoc, hcut, List.append_assoc, List.singleton_append]

/-- An extension keeps no more than the capacity. -/
theorem size_extend_le {v : RollingView} (hv : v.size ≤ v.capacity) (lines : List String) :
    (v.extend lines).size ≤ (v.extend lines).capacity := by
  rw [extend_eq hv, size, List.length_drop, List.length_append]
  have : v.size = v.lines.length := rfl
  simp only
  omega

/-- Extending twice is extending once. -/
theorem extend_append (v : RollingView) (a b : List String) :
    v.extend (a ++ b) = (v.extend a).extend b :=
  List.foldl_append

/-- A view that keeps no more than its capacity stays as it is when it is resized to it. -/
theorem resize_capacity {v : RollingView} (hv : v.size ≤ v.capacity) :
    v.resize v.capacity = v := by
  rw [resize, drop, Nat.sub_eq_zero_of_le hv, List.drop_zero, Nat.add_zero]

/-- **Resizing.** After a view has been resized and extended, its last `n` lines follow from the
last `n` lines before, if the capacity is no less. -/
theorem tail_extend_resize (v : RollingView) {capacity n : Nat} (hn : n ≤ capacity)
    (lines : List String) :
    ((v.resize capacity).extend lines).tail n =
      (v.tail n ++ lines).drop ((v.tail n ++ lines).length - n) := by
  have hsize : v.size = v.lines.length := rfl
  have hfits : (v.resize capacity).size ≤ (v.resize capacity).capacity := by
    show (v.lines.drop (v.size - capacity)).length ≤ capacity
    rw [List.length_drop]
    omega
  -- both sides are the last lines of all that were held and came
  have hleft : ((v.resize capacity).extend lines).tail n =
      (v.lines ++ lines).drop (v.size + lines.length - n) := by
    rw [extend_eq hfits, tail]
    simp only [resize, drop, size, List.length_drop, List.length_append]
    rw [drop_append_drop (Nat.sub_le _ _), List.drop_drop]
    congr 1
    omega
  have hcut : v.size - n ≤ v.lines.length := by omega
  rw [hleft, tail, drop_append_drop hcut, List.length_append, List.length_drop]
  congr 1
  omega

/-! ## Views that started empty -/

/-- The capacity stays. -/
theorem capacity_extend_empty (capacity : Nat) (lines : List String) :
    (({ capacity := capacity } : RollingView).extend lines).capacity = capacity := by
  rw [extend_eq (Nat.zero_le _)]

/-- **Tails.** The last lines of a view that started empty are the last lines of all that came, as
far as the capacity reaches. -/
theorem tail_extend_empty_min (capacity n : Nat) (lines : List String) :
    (({ capacity := capacity } : RollingView).extend lines).tail n =
      lines.drop (lines.length - min n capacity) := by
  rw [extend_eq (Nat.zero_le _), tail]
  simp only [size, List.nil_append, List.length_nil, Nat.zero_add, List.length_drop,
    List.drop_drop]
  congr 1
  omega

/-- A capacity that reaches far enough makes no difference to the last lines. -/
theorem tail_extend_empty {capacity n : Nat} (hn : n ≤ capacity) (lines : List String) :
    (({ capacity := capacity } : RollingView).extend lines).tail n =
      lines.drop (lines.length - n) := by
  rw [tail_extend_empty_min, Nat.min_eq_left hn]

/-! ## The end of a sequence -/

/-- A view shows the end of a sequence of lines, as far as its capacity reaches, and counts the
lines in front of it. -/
structure ShowsEnd (v : RollingView) (lines : List String) : Prop where
  fits : v.size ≤ v.capacity
  first_pos : 0 < v.first
  first_le : v.first ≤ lines.length + 1
  lines_eq : v.lines = lines.drop (v.first - 1)

/-- A new view shows the end of nothing. -/
theorem showsEnd_nil (capacity : Nat) : ShowsEnd { capacity := capacity } [] where
  fits := Nat.zero_le _
  first_pos := Nat.one_pos
  first_le := Nat.le_refl _
  lines_eq := rfl

section ShowsEnd

variable {v : RollingView} {lines : List String}

/-- The lines in front of a view and those in it are all lines. -/
theorem ShowsEnd.first_add_size (h : v.ShowsEnd lines) : v.first + v.size = lines.length + 1 := by
  have hpos := h.first_pos
  have hle := h.first_le
  rw [size, h.lines_eq, List.length_drop]
  omega

/-- A view goes on to show the end when more lines come. -/
theorem ShowsEnd.extend (h : v.ShowsEnd lines) (more : List String) :
    (v.extend more).ShowsEnd (lines ++ more) where
  fits := size_extend_le h.fits more
  first_pos := by
    rw [extend_eq h.fits]
    exact Nat.add_pos_left h.first_pos _
  first_le := by
    have hsize := h.first_add_size
    rw [extend_eq h.fits, List.length_append]
    simp only
    omega
  lines_eq := by
    have hpos := h.first_pos
    have hcut : v.first - 1 ≤ lines.length := by
      have := h.first_le
      omega
    rw [extend_eq h.fits]
    simp only
    rw [h.lines_eq, drop_append_drop hcut, Nat.sub_add_comm hpos]

/-- A view goes on to show the end when its capacity changes. -/
theorem ShowsEnd.resize (h : v.ShowsEnd lines) (capacity : Nat) :
    (v.resize capacity).ShowsEnd lines where
  fits := by
    show (v.lines.drop (v.size - capacity)).length ≤ capacity
    rw [List.length_drop, ← size]
    omega
  first_pos := Nat.add_pos_left h.first_pos _
  first_le := by
    have hsize := h.first_add_size
    show v.first + (v.size - capacity) ≤ lines.length + 1
    omega
  lines_eq := by
    have hpos := h.first_pos
    show v.lines.drop (v.size - capacity) = lines.drop (v.first + (v.size - capacity) - 1)
    rw [h.lines_eq, List.drop_drop, Nat.sub_add_comm hpos]

/-- A view shows a line at its own position. -/
theorem ShowsEnd.get?_eq_some (h : v.ShowsEnd lines) {p : Nat} {line : String}
    (hline : v.get? p = some line) : 0 < p ∧ lines[p - 1]? = some line := by
  have hpos := h.first_pos
  by_cases hfirst : v.first ≤ p
  · rw [get?, if_pos hfirst, h.lines_eq, List.getElem?_drop] at hline
    rw [show v.first - 1 + (p - v.first) = p - 1 by omega] at hline
    exact ⟨Nat.lt_of_lt_of_le hpos hfirst, hline⟩
  · rw [get?, if_neg hfirst] at hline
    cases hline

end ShowsEnd

end TraceScan.RollingView
