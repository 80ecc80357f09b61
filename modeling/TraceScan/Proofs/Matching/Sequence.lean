import TraceScan.Proofs.Matching.Disambiguation

/-!
# Sequences of lines

What a scan of a sequence finds, line by line. A scan does not depend on the lines in front of its
first window (`scanFrom_drop`), and a line does not depend on the lines behind its window
(`matchInSequence_take`). The part of a scan behind a line is the scan that starts there
(`filter_scanFrom`), and the part at a position is what its line gives
(`filter_position_scanFrom`). A line gets a location in a sequence exactly when it gets one alone,
from a grammar of the same class (`matchInSequence_or_lone`).
-/

namespace TraceScan

/-! ## Windows -/

/-- Dropping lines in front of a window does not change it. -/
theorem Window.around_drop {lines : List String} {index width k : Nat} (hk : k ≤ index - width)
    (hindex : index < lines.length) (hwidth : index + width < UInt64.size) :
    Window.around (lines.drop k) (index - k) width = Window.around lines index width := by
  have hki : k ≤ index := le_trans hk (Nat.sub_le _ _)
  have hfirst : index - k - width = index - width - k := Nat.sub_right_comm _ _ _
  have hlast : min (index - k + width) (lines.length - k - 1) =
      min (index + width) (lines.length - 1) - k := by
    rw [← Nat.sub_add_comm hki, Nat.sub_right_comm lines.length, Nat.sub_min_sub_right]
  have hle : k ≤ min (index + width) (lines.length - 1) :=
    le_min (le_trans hki (Nat.le_add_right _ _)) (le_trans hki (Nat.le_sub_one_of_lt hindex))
  have hsmall : index - k + width < UInt64.size :=
    lt_of_le_of_lt (Nat.add_le_add_right (Nat.sub_le _ _) _) hwidth
  rw [around_eq hwidth, around_eq hsmall, List.extract, List.extract, List.length_drop,
    List.drop_drop, hfirst, hlast, Nat.add_sub_cancel' hk, ← Nat.sub_add_comm hle,
    Nat.sub_sub_sub_cancel_right hk, Nat.sub_sub_sub_cancel_right hk]

/-- Lines behind a window may be cut off. -/
theorem Window.around_take {lines : List String} {index width n : Nat} (hn : index + width < n)
    (hwidth : index + width < UInt64.size) :
    Window.around (lines.take n) index width = Window.around lines index width := by
  rw [around_eq hwidth, around_eq hwidth, List.extract, List.extract, List.length_take]
  -- the window ends with the last line or `width` lines behind its own, in both cases before `n`
  have hlast : min (index + width) (min n lines.length - 1) =
      min (index + width) (lines.length - 1) := by
    omega
  rw [hlast, List.drop_take, List.take_take, Nat.min_eq_left]
  omega

/-! ## Lines -/

/-- The lines behind a lead are the visible ones. -/
theorem getElem?_lead_append (lead lines : List String) (i : Nat) :
    (lead ++ lines.map strip)[lead.length + i]? = lines[i]?.map strip := by
  rw [List.getElem?_append_right (Nat.le_add_right _ _), Nat.add_sub_cancel_left,
    List.getElem?_map]

/-- Whether one of some grammars captures a visible line. An empty line is captured by none. -/
def Captured (grammars : List Grammar) (line : String) : Prop :=
  line ≠ "" ∧ ∃ g ∈ grammars, (g.captures line).isSome = true

namespace Matcher

variable (m : Matcher)

/-- Lines in front of the window do not matter to a line. -/
theorem matchInSequence_drop {lines : List String} {index k : Nat} (hk : k ≤ index - m.window)
    (hwidth : index + m.window < UInt64.size) (cwd : Option String) (position : Nat) :
    m.matchInSequence (lines.drop k) (index - k) cwd position =
      m.matchInSequence lines index cwd position := by
  have hget : (lines.drop k)[index - k]? = lines[index]? := by
    rw [List.getElem?_drop, show k + (index - k) = index by omega]
  unfold matchInSequence
  rw [hget]
  cases hline : lines[index]? with
  | none => rfl
  | some line =>
    have hindex : index < lines.length := (List.getElem?_eq_some_iff.mp hline).1
    rw [Window.around_drop hk hindex hwidth]

/-- Lines behind the window do not matter to a line. -/
theorem matchInSequence_take {lines : List String} {index n : Nat} (hn : index + m.window < n)
    (hwidth : index + m.window < UInt64.size) (cwd : Option String) (position : Nat) :
    m.matchInSequence (lines.take n) index cwd position =
      m.matchInSequence lines index cwd position := by
  unfold matchInSequence
  rw [List.getElem?_take_of_lt (by omega), Window.around_take hn hwidth]

/-- A location of a sequence is what some grammar finds in its line, which is not empty. -/
theorem exists_of_matchInSequence {lines : List String} {index : Nat} {cwd : Option String}
    {position : Nat} {l : Location} (h : m.matchInSequence lines index cwd position = some l) :
    ∃ line g capture, lines[index]? = some line ∧ line ≠ "" ∧ g ∈ m.grammars ∧
      g.captures line = some capture ∧ l = m.locate g capture cwd line position := by
  unfold matchInSequence at h
  cases hline : lines[index]? with
  | none => simp [hline] at h
  | some line =>
    simp only [hline, Option.bind_eq_bind, Option.bind_some] at h
    split at h
    · simp at h
    · rename_i hempty
      obtain ⟨⟨g, capture⟩, hchoose, hlocate⟩ := Option.bind_eq_some_iff.mp h
      have hmem := mem_of_choose hchoose
      refine ⟨line, g, capture, rfl, by simpa using hempty, m.mem_of_mem_candidates hmem,
        m.captures_of_mem_candidates hmem, ?_⟩
      exact (Option.some.inj hlocate).symm

/-- A location of a sequence stands for a line of it, at the position asked for. -/
theorem eq_some_of_matchInSequence {lines : List String} {index : Nat} {cwd : Option String}
    {position : Nat} {l : Location} (h : m.matchInSequence lines index cwd position = some l) :
    index < lines.length ∧ l.position = position := by
  obtain ⟨line, g, capture, hline, -, -, -, rfl⟩ := m.exists_of_matchInSequence h
  exact ⟨(List.getElem?_eq_some_iff.mp hline).1, rfl⟩

/-- A location of a sequence holds the text of its line. -/
theorem text_of_matchInSequence {lines : List String} {index : Nat} {cwd : Option String}
    {position : Nat} {l : Location} (h : m.matchInSequence lines index cwd position = some l) :
    lines[index]? = some l.text := by
  obtain ⟨line, g, capture, hline, -, -, -, rfl⟩ := m.exists_of_matchInSequence h
  exact hline

/-- Alone, the location of a line is what some grammar finds in its visible text, which is not
empty. -/
theorem exists_of_matchLine {line : String} {cwd : Option String} {l : Location}
    (h : m.matchLine line cwd = some l) :
    ∃ g capture, strip line ≠ "" ∧ g ∈ m.grammars ∧ g.captures (strip line) = some capture ∧
      l = m.locate g capture cwd (strip line) 1 := by
  unfold matchLine at h
  dsimp only at h
  split at h
  · cases h
  · rename_i hempty
    obtain ⟨g, hg, hlocate⟩ := List.exists_of_findSome?_eq_some h
    obtain ⟨capture, hcapture, rfl⟩ := Option.map_eq_some_iff.mp hlocate
    exact ⟨g, capture, by simpa using hempty, hg, hcapture, rfl⟩

/-! ## Scans -/

/-- A scan finds the locations of the single lines. -/
theorem mem_scanFrom {lines : List String} {start first : Nat} {cwd : Option String}
    {l : Location} :
    l ∈ m.scanFrom lines start cwd first ↔
      ∃ i, m.matchInSequence lines (start + i) cwd (first + i) = some l := by
  rw [scanFrom, List.mem_filterMap]
  constructor
  · rintro ⟨i, -, h⟩
    exact ⟨i, h⟩
  · rintro ⟨i, h⟩
    have hi := (m.eq_some_of_matchInSequence h).1
    exact ⟨i, List.mem_range.mpr (by omega), h⟩

/-- A scan finds at most one location in each line. -/
theorem length_scanFrom_le (lines : List String) (start : Nat) (cwd : Option String)
    (first : Nat) : (m.scanFrom lines start cwd first).length ≤ lines.length - start := by
  calc (m.scanFrom lines start cwd first).length
      ≤ (List.range (lines.length - start)).length := List.length_filterMap_le _ _
    _ = lines.length - start := List.length_range

/-- A scan finds each location at the position of its line, and with the text of it. -/
theorem exists_of_mem_scanFrom {lead lines : List String} {first : Nat} {cwd : Option String}
    {l : Location} (h : l ∈ m.scanFrom (lead ++ lines.map strip) lead.length cwd first) :
    ∃ i, l.position = first + i ∧ lines[i]?.map strip = some l.text := by
  obtain ⟨i, hi⟩ := m.mem_scanFrom.mp h
  have htext := m.text_of_matchInSequence hi
  rw [getElem?_lead_append] at htext
  exact ⟨i, (m.eq_some_of_matchInSequence hi).2, htext⟩

/-- The positions of a scan rise. -/
theorem pairwise_position_scanFrom (lines : List String) (start : Nat) (cwd : Option String)
    (first : Nat) :
    (m.scanFrom lines start cwd first).Pairwise fun a b => a.position < b.position := by
  rw [scanFrom, List.pairwise_filterMap]
  refine List.pairwise_lt_range.imp ?_
  intro i j hij a ha b hb
  rw [(m.eq_some_of_matchInSequence ha).2, (m.eq_some_of_matchInSequence hb).2]
  omega

/-- **Locality.** A scan does not depend on the lines in front of its first window. -/
theorem scanFrom_drop {lines : List String} {start k : Nat} (hk : k ≤ start - m.window)
    (hwidth : lines.length + m.window ≤ UInt64.size) (cwd : Option String) (first : Nat) :
    m.scanFrom (lines.drop k) (start - k) cwd first = m.scanFrom lines start cwd first := by
  -- both scans are over as many lines, and each line has the same window in both
  have hlength : (lines.drop k).length - (start - k) = lines.length - start := by
    rw [List.length_drop]
    omega
  rw [scanFrom, scanFrom, hlength]
  refine List.filterMap_congr ?_
  intro i hi
  rw [List.mem_range] at hi
  rw [show start - k + i = start + i - k by omega]
  exact m.matchInSequence_drop (by omega) (by omega) cwd _

/-- **Suffixes.** The part of a scan behind its first `n` lines is the scan that starts there. -/
theorem filter_le_scanFrom (lines : List String) (start n : Nat) (cwd : Option String)
    (first : Nat) :
    (m.scanFrom lines start cwd first).filter (fun l => first + n ≤ l.position) =
      m.scanFrom lines (start + n) cwd (first + n) := by
  have hposition : ∀ i l, m.matchInSequence lines (start + i) cwd (first + i) = some l →
      l.position = first + i := fun i l h => (m.eq_some_of_matchInSequence h).2
  rw [scanFrom, scanFrom]
  by_cases hn : n ≤ lines.length - start
  · obtain ⟨rest, hrest⟩ := Nat.exists_eq_add_of_le hn
    have hlength : lines.length - (start + n) = rest := by omega
    have hbefore : ((List.range n).filterMap fun i =>
        m.matchInSequence lines (start + i) cwd (first + i)).filter
          (fun l => first + n ≤ l.position) = [] := by
      rw [List.filter_eq_nil_iff]
      intro l hl
      obtain ⟨i, hi, h⟩ := List.mem_filterMap.mp hl
      rw [List.mem_range] at hi
      rw [hposition i l h]
      simp
      omega
    have hbehind : ∀ l ∈ (List.range rest).filterMap
        ((fun i => m.matchInSequence lines (start + i) cwd (first + i)) ∘ fun i => n + i),
        decide (first + n ≤ l.position) = true := by
      intro l hl
      obtain ⟨i, -, h⟩ := List.mem_filterMap.mp hl
      rw [hposition (n + i) l h]
      simp
    rw [hrest, hlength, List.range_add, List.filterMap_append, List.filter_append,
      List.filterMap_map, hbefore, List.filter_eq_self.mpr hbehind, List.nil_append]
    refine List.filterMap_congr ?_
    intro i _
    rw [Function.comp_apply, Nat.add_assoc, Nat.add_assoc]
  · -- the scan has no more than `n` lines
    have hlength : lines.length - (start + n) = 0 := by omega
    rw [hlength, List.range_zero, List.filterMap_nil, List.filter_eq_nil_iff]
    intro l hl
    obtain ⟨i, hi, h⟩ := List.mem_filterMap.mp hl
    rw [List.mem_range] at hi
    rw [hposition i l h]
    simp
    omega

/-- **Single lines.** What a scan reports at a position is what the line there gives. -/
theorem filter_position_scanFrom (lines : List String) (start i : Nat) (cwd : Option String)
    (first : Nat) :
    (m.scanFrom lines start cwd first).filter (fun l => l.position = first + i) =
      (m.matchInSequence lines (start + i) cwd (first + i)).toList := by
  have hfilter : (m.scanFrom lines start cwd first).filter (fun l => l.position = first + i) =
      (m.scanFrom lines (start + i) cwd (first + i)).filter
        (fun l => l.position = first + i) := by
    rw [← m.filter_le_scanFrom, List.filter_filter]
    refine List.filter_congr fun l _ => ?_
    rw [← Bool.decide_and, decide_eq_decide]
    omega
  rw [hfilter, scanFrom]
  cases hlength : lines.length - (start + i) with
  | zero =>
    have hnone : m.matchInSequence lines (start + i) cwd (first + i) = none := by
      rw [Option.eq_none_iff_forall_ne_some]
      intro l hl
      have := (m.eq_some_of_matchInSequence hl).1
      omega
    rw [hnone]
    rfl
  | succ rest =>
    -- the first line of the scan is the one in question, and the others have later positions
    have hbehind : ((List.range rest).filterMap
        ((fun j => m.matchInSequence lines (start + i + j) cwd (first + i + j)) ∘
          Nat.succ)).filter (fun l => l.position = first + i) = [] := by
      rw [List.filter_eq_nil_iff]
      intro l hl
      obtain ⟨j, -, hj⟩ := List.mem_filterMap.mp hl
      rw [(m.eq_some_of_matchInSequence hj).2]
      simp
    have hself : ∀ l ∈ (m.matchInSequence lines (start + i) cwd (first + i)).toList,
        decide (l.position = first + i) = true := by
      intro l hl
      simpa using (m.eq_some_of_matchInSequence (Option.mem_toList.mp hl)).2
    have hone : ∀ f : Nat → Option Location, [0].filterMap f = (f 0).toList := by
      intro f
      rw [List.filterMap_cons]
      cases f 0 <;> rfl
    rw [List.range_succ_eq_map, ← List.singleton_append, List.filterMap_append, hone,
      List.filterMap_map, List.filter_append, hbehind, List.append_nil]
    exact List.filter_eq_self.mpr hself

/-- The part of a scan of a whole sequence behind the first `n` lines. -/
theorem filter_scanFrom (lines : List String) (n : Nat) (cwd : Option String) :
    (m.scanFrom lines 0 cwd 1).filter (fun l => n < l.position) =
      m.scanFrom lines n cwd (n + 1) := by
  have h := m.filter_le_scanFrom lines 0 n cwd 1
  rw [Nat.zero_add, Nat.add_comm 1 n] at h
  exact h

/-- What a scan of a whole sequence reports at a position. -/
theorem filter_position_scan (lines : List String) {p : Nat} (hp : 0 < p) (cwd : Option String) :
    (m.scanFrom lines 0 cwd 1).filter (fun l => l.position = p) =
      (m.matchInSequence lines (p - 1) cwd p).toList := by
  have hposition := m.filter_position_scanFrom lines 0 (p - 1) cwd 1
  rwa [Nat.add_sub_cancel' hp, Nat.zero_add] at hposition

/-! ## Which lines are found -/

/-- There is a choice unless there is no candidate. -/
theorem exists_choose_iff {window : Window} {candidates : List (Grammar × Capture)} :
    (∃ c, choose window candidates = some c) ↔ candidates ≠ [] := by
  cases candidates with
  | nil => exact iff_of_false (by simp [choose]) (by simp)
  | cons leader others =>
    rw [choose_cons]
    exact iff_of_true ⟨_, rfl⟩ (List.cons_ne_nil _ _)

/-- A line has candidates when a grammar captures it. -/
theorem candidates_ne_nil_iff {line : String} :
    m.candidates line ≠ [] ↔ ∃ g ∈ m.grammars, (g.captures line).isSome = true := by
  rw [Ne, ← List.map_eq_nil_iff (f := Prod.fst), map_fst_candidates, capturing,
    List.filter_eq_nil_iff]
  push Not
  rfl

/-- **Lines.** In a sequence, a line is found when it is captured, whatever stands around it and
whatever opinions the grammars have. -/
theorem exists_matchInSequence_iff {lines : List String} {index : Nat} {cwd : Option String}
    {position : Nat} :
    (∃ l, m.matchInSequence lines index cwd position = some l) ↔
      ∃ line, lines[index]? = some line ∧ Captured m.grammars line := by
  unfold matchInSequence
  cases hline : lines[index]? with
  | none => simp
  | some line =>
    have hcaptured : Captured m.grammars line ↔ line ≠ "" ∧
        ∃ c, choose (Window.around lines index m.window) (m.candidates line) = some c := by
      rw [exists_choose_iff, candidates_ne_nil_iff, Captured]
    have hlocated : ∀ choice : Option (Grammar × Capture),
        (∃ l, (choice.bind fun c => some (m.locate c.1 c.2 cwd line position)) = some l) ↔
          ∃ c, choice = some c := by
      intro choice
      cases choice <;> simp
    by_cases hempty : line = ""
    · simp [hempty, Captured]
    · simpa [hcaptured, hempty] using hlocated _

/-- The positions of a scan are those of the captured lines. -/
theorem exists_mem_scanFrom_iff {lines : List String} {start first i : Nat}
    {cwd : Option String} :
    (∃ l ∈ m.scanFrom lines start cwd first, l.position = first + i) ↔
      ∃ line, lines[start + i]? = some line ∧ Captured m.grammars line := by
  rw [← @exists_matchInSequence_iff m lines (start + i) cwd (first + i)]
  constructor
  · rintro ⟨l, hl, hposition⟩
    obtain ⟨j, hj⟩ := m.mem_scanFrom.mp hl
    have hij : j = i := by
      have := (m.eq_some_of_matchInSequence hj).2
      omega
    exact ⟨l, hij ▸ hj⟩
  · rintro ⟨l, hl⟩
    exact ⟨l, m.mem_scanFrom.mpr ⟨i, hl⟩, (m.eq_some_of_matchInSequence hl).2⟩

/-! ## Lines in a sequence and alone -/

/-- **Alone and in a sequence.** A line whose visible text stands in a sequence gets no location
there and none alone, or it gets one there and one alone, from grammars of the same class. -/
theorem matchInSequence_or_lone (hm : Grouped m.grammars) {lines : List String} {index : Nat}
    {raw : String} (hline : lines[index]? = some (strip raw)) (cwd : Option String)
    (position : Nat) :
    (m.matchInSequence lines index cwd position = none ∧ m.matchLine raw cwd = none) ∨
      ∃ l lone g h, m.matchInSequence lines index cwd position = some l ∧
        m.matchLine raw cwd = some lone ∧ g ∈ m.grammars ∧ h ∈ m.grammars ∧
        l.grammar = g.name ∧ lone.grammar = h.name ∧ g.grammarClass = h.grammarClass := by
  rw [m.matchInSequence_eq_bind hm, m.matchLine_eq_bind, hline, Option.bind_some]
  by_cases hempty : (strip raw).isEmpty = true
  · rw [if_pos hempty, if_pos hempty]
    exact Or.inl ⟨rfl, rfl⟩
  · rw [if_neg hempty, if_neg hempty]
    cases howner : owner? (Window.around lines index m.window) (m.capturing (strip raw)) with
    | none =>
      rw [owner?_eq_none_iff.mp howner]
      exact Or.inl ⟨rfl, rfl⟩
    | some g =>
      obtain ⟨hg, h, hhead, hclass⟩ := mem_and_class_of_owner? howner
      have hh : h ∈ m.capturing (strip raw) := List.mem_of_head? hhead
      obtain ⟨capture, -, hl⟩ := m.locateBy_of_mem_capturing hg cwd position
      obtain ⟨loneCapture, -, hlone⟩ := m.locateBy_of_mem_capturing hh cwd 1
      rw [hhead, Option.bind_some, Option.bind_some]
      exact Or.inr ⟨_, _, g, h, hl, hlone, List.mem_of_mem_filter hg, List.mem_of_mem_filter hh,
        rfl, rfl, hclass⟩

end Matcher

end TraceScan
