import TraceScan.Overflow
import TraceScan.Proofs.Matching.Disambiguation

/-!
# Where scans stop

A build that checks its sums stops at a line if and only if several grammars capture it and the far
end of its window is no word (`checkedMatchInSequence_eq_ok_iff`). A scan stops at the first such
line, or at the first position that is no word; a scan that does not stop finds what it finds in a
build whose sums wrap (`checkedScanFrom_eq_ok_iff`, and for engines `checkedScan_eq_ok_iff` and
`checkedScanChunk_eq_ok_iff`). With fewer lines than there are words behind the window none stops.
-/

namespace TraceScan

/-! ## Sums of words -/

/-- A sum that is a word. -/
theorem checkedSum_of_lt {a b : Nat} (h : a + b < UInt64.size) : checkedSum a b = .ok (a + b) :=
  if_pos h

/-- A sum that is no word. -/
theorem checkedSum_of_le {a b : Nat} (h : UInt64.size ≤ a + b) :
    checkedSum a b = .error ⟨a, b⟩ :=
  if_neg (Nat.not_lt.mpr h)

/-- A far end that is a word gives the window of a build whose sums wrap. -/
theorem Window.checkedAround_of_lt {index width : Nat} (h : index + width < UInt64.size)
    (lines : List String) :
    checkedAround lines index width = .ok (around lines index width) := by
  rw [checkedAround, checkedSum_of_lt h, around, Nat.mod_eq_of_lt h]
  rfl

/-- A far end that is no word gives no window. -/
theorem Window.checkedAround_of_le {index width : Nat} (h : UInt64.size ≤ index + width)
    (lines : List String) : checkedAround lines index width = .error ⟨index, width⟩ := by
  rw [checkedAround, checkedSum_of_le h]
  rfl

/-! ## Steps that may stop -/

/-- Where each step of a `filterMapM` gives `g` or stops, the whole gives what `g` gives, unless a
step stops. -/
theorem filterMapM_eq_ok_iff {α β ε : Type} {f : α → Except ε (Option β)} {g : α → Option β}
    {P : α → Prop} (h : ∀ a b, f a = .ok b ↔ P a ∧ b = g a) (l : List α) (bs : List β) :
    l.filterMapM f = .ok bs ↔ (∀ a ∈ l, P a) ∧ bs = l.filterMap g := by
  induction l generalizing bs with
  | nil =>
    rw [List.filterMapM_nil, List.filterMap_nil]
    simp [pure, Except.pure, eq_comm]
  | cons a l ih =>
    rw [List.filterMapM_cons, List.forall_mem_cons]
    by_cases ha : P a
    · rw [(h a (g a)).mpr ⟨ha, rfl⟩, and_iff_right ha]
      cases hga : g a with
      | none =>
        rw [List.filterMap_cons_none hga]
        exact ih bs
      | some b =>
        rw [List.filterMap_cons_some hga]
        cases hl : l.filterMapM f with
        | error e =>
          -- a step behind this one stops
          refine iff_of_false (by simp [bind, Except.bind]) fun ⟨hall, _⟩ => ?_
          have hok := (ih (l.filterMap g)).mpr ⟨hall, rfl⟩
          rw [hl] at hok
          cases hok
        | ok cs =>
          obtain ⟨hall, rfl⟩ := (ih cs).mp hl
          change Except.ok (b :: l.filterMap g) = .ok bs ↔ _
          rw [and_iff_right hall, Except.ok.injEq, eq_comm]
    · refine iff_of_false (fun hok => ?_) fun ⟨⟨ha', _⟩, _⟩ => ha ha'
      cases hf : f a with
      | error e =>
        rw [hf] at hok
        cases hok
      | ok b => exact ha ((h a b).mp hf).1

/-! ## Matching -/

namespace Matcher

variable (m : Matcher)

/-- Whether several grammars capture a line, so that its neighbours are looked at. -/
def IsContested (line : String) : Prop :=
  line ≠ "" ∧ 2 ≤ (m.candidates line).length

instance (line : String) : Decidable (m.IsContested line) :=
  inferInstanceAs (Decidable (_ ∧ _))

/-- A window is made for a contested line. -/
theorem checkedMatchInSequence_of_isContested {lines : List String} {index : Nat} {line : String}
    (hline : lines[index]? = some line) (hcontested : m.IsContested line) (cwd : Option String)
    (position : Nat) :
    m.checkedMatchInSequence lines index cwd position =
      (Window.checkedAround lines index m.window).map fun window =>
        (choose window (m.candidates line)).map fun c => m.locate c.1 c.2 cwd line position := by
  obtain ⟨hne, hcandidates⟩ := hcontested
  have hempty : ¬ line.isEmpty = true := by simpa using hne
  rw [checkedMatchInSequence, hline]
  refine (if_neg hempty).trans ?_
  cases hc : m.candidates line with
  | nil => simp [hc] at hcandidates
  | cons c others =>
    cases others with
    | nil => simp [hc] at hcandidates
    | cons c' rest => rfl

/-- A line with a text that is not contested has at most one candidate. -/
theorem candidates_of_not_isContested {line : String} (hne : line ≠ "")
    (h : ¬ m.IsContested line) : m.candidates line = [] ∨ ∃ c, m.candidates line = [c] := by
  cases hc : m.candidates line with
  | nil => exact .inl rfl
  | cons c others =>
    cases others with
    | nil => exact .inr ⟨c, rfl⟩
    | cons c' rest => exact absurd ⟨hne, by simp [hc]⟩ h

/-- No window is made for another line. -/
theorem checkedMatchInSequence_of_not_isContested {lines : List String} {index : Nat}
    (h : ∀ line, lines[index]? = some line → ¬ m.IsContested line) (cwd : Option String)
    (position : Nat) :
    m.checkedMatchInSequence lines index cwd position =
      .ok (m.matchInSequence lines index cwd position) := by
  cases hline : lines[index]? with
  | none => rw [checkedMatchInSequence, matchInSequence, hline]; rfl
  | some line =>
    rw [checkedMatchInSequence, hline]
    by_cases hempty : line.isEmpty = true
    · rw [matchInSequence, hline]
      exact (if_pos hempty).trans (congrArg Except.ok (if_pos hempty).symm)
    · have hne : line ≠ "" := by simpa using hempty
      rw [m.matchInSequence_eq_choose hline hne]
      refine (if_neg hempty).trans ?_
      obtain hc | ⟨c, hc⟩ := m.candidates_of_not_isContested hne (h line hline)
      · rw [hc]
        rfl
      · rw [hc]
        rfl

/-- **Lines.** A build that checks its sums matches a line as one whose sums wrap, unless the line
is contested and the far end of its window is no word: there it stops. -/
theorem checkedMatchInSequence_eq_ok_iff {lines : List String} {index : Nat} {cwd : Option String}
    {position : Nat} {found : Option Location} :
    m.checkedMatchInSequence lines index cwd position = .ok found ↔
      (∀ line, lines[index]? = some line → m.IsContested line →
        index + m.window < UInt64.size) ∧
      found = m.matchInSequence lines index cwd position := by
  by_cases hcontested : ∃ line, lines[index]? = some line ∧ m.IsContested line
  · obtain ⟨line, hline, hcontested⟩ := hcontested
    have hword : (∀ line, lines[index]? = some line → m.IsContested line →
        index + m.window < UInt64.size) ↔ index + m.window < UInt64.size :=
      ⟨fun h => h line hline hcontested, fun h _ _ _ => h⟩
    rw [m.checkedMatchInSequence_of_isContested hline hcontested, hword,
      m.matchInSequence_eq_choose hline hcontested.1]
    by_cases h : index + m.window < UInt64.size
    · rw [Window.checkedAround_of_lt h, Except.map, Except.ok.injEq, and_iff_right h, eq_comm]
    · rw [Window.checkedAround_of_le (Nat.not_lt.mp h)]
      exact iff_of_false nofun fun hfits => h hfits.1
  · have hnone : ∀ line, lines[index]? = some line → ¬ m.IsContested line :=
      fun line hline hline' => hcontested ⟨line, hline, hline'⟩
    rw [m.checkedMatchInSequence_of_not_isContested hnone, Except.ok.injEq, eq_comm,
      and_iff_right fun line hline hline' => absurd hline' (hnone line hline)]

/-! ## Sequences of lines -/

/-- Whether no sum of a scan passes the largest word: neither a position nor the far end of the
window of a contested line. -/
def SumsFit (lines : List String) (start first : Nat) : Prop :=
  ∀ i line, lines[start + i]? = some line →
    first + i < UInt64.size ∧ (m.IsContested line → start + i + m.window < UInt64.size)

/-- One step of a scan stops at the position or at the line. -/
theorem checkedStep_eq_ok_iff (lines : List String) (start : Nat) (cwd : Option String)
    (first i : Nat) (found : Option Location) :
    (do
      let position ← checkedSum first i
      m.checkedMatchInSequence lines (start + i) cwd position) = .ok found ↔
    (first + i < UInt64.size ∧
      ∀ line, lines[start + i]? = some line → m.IsContested line →
        start + i + m.window < UInt64.size) ∧
      found = m.matchInSequence lines (start + i) cwd (first + i) := by
  by_cases hposition : first + i < UInt64.size
  · rw [checkedSum_of_lt hposition, and_iff_right hposition]
    exact m.checkedMatchInSequence_eq_ok_iff
  · rw [checkedSum_of_le (Nat.not_lt.mp hposition)]
    simp [hposition, bind, Except.bind]

/-- **Scans.** A scan in a build that checks its sums finds what it finds in a build whose sums
wrap, if its sums are words. If not, it stops. -/
theorem checkedScanFrom_eq_ok_iff {lines : List String} {start : Nat} {cwd : Option String}
    {first : Nat} {found : List Location} :
    m.checkedScanFrom lines start cwd first = .ok found ↔
      m.SumsFit lines start first ∧ found = m.scanFrom lines start cwd first := by
  rw [checkedScanFrom, filterMapM_eq_ok_iff (m.checkedStep_eq_ok_iff lines start cwd first),
    scanFrom]
  refine and_congr_left fun _ => ⟨fun h i line hline => ?_, fun h i hi => ?_⟩
  · have hlength := (List.getElem?_eq_some_iff.mp hline).1
    obtain ⟨hposition, hfar⟩ := h i (List.mem_range.mpr (by omega))
    exact ⟨hposition, hfar line hline⟩
  · have hlength : start + i < lines.length := by
      have := List.mem_range.mp hi
      omega
    exact ⟨(h i _ (List.getElem?_eq_getElem hlength)).1, fun line hline => (h i line hline).2⟩

/-- The sums of a scan are words if the last position and the far end of the last line are. -/
theorem sumsFit_of_le {lines : List String} {start first : Nat}
    (hposition : first + (lines.length - start) ≤ UInt64.size)
    (hfar : lines.length + m.window ≤ UInt64.size) : m.SumsFit lines start first := by
  intro i line hline
  have hlength := (List.getElem?_eq_some_iff.mp hline).1
  exact ⟨by omega, fun _ => by omega⟩

/-- What is made of the locations in a scan is made if its sums are words. -/
theorem map_checkedScanFrom_eq_ok_iff {α : Type} {lines : List String} {start : Nat}
    {cwd : Option String} {first : Nat} {f : List Location → α} {result : α} :
    (m.checkedScanFrom lines start cwd first).map f = .ok result ↔
      m.SumsFit lines start first ∧ result = f (m.scanFrom lines start cwd first) := by
  cases hscan : m.checkedScanFrom lines start cwd first with
  | error overflow =>
    refine iff_of_false nofun fun ⟨hfits, _⟩ => ?_
    have hok : m.checkedScanFrom lines start cwd first = .ok _ :=
      m.checkedScanFrom_eq_ok_iff.mpr ⟨hfits, rfl⟩
    rw [hscan] at hok
    cases hok
  | ok found =>
    obtain ⟨hfits, rfl⟩ := m.checkedScanFrom_eq_ok_iff.mp hscan
    rw [Except.map, Except.ok.injEq, and_iff_right hfits, eq_comm]

end Matcher

/-! ## Engines -/

namespace Engine

variable (e : Engine)

/-- **Buffers.** A scan of a buffer in a build that checks its sums does what it does in a build
whose sums wrap, if its sums are words or the engine is switched off. If not, it stops. -/
theorem checkedScan_eq_ok_iff {lines : List String} {cwd : Option String}
    {stream : Option StreamId} {result : Engine × List Location} :
    e.checkedScan lines cwd stream = .ok result ↔
      (e.config.enabled = true → e.matcher.SumsFit (lines.map strip) 0 1) ∧
        result = e.scan lines cwd stream := by
  rw [checkedScan, scan]
  by_cases hskip : (!e.config.enabled || lines.isEmpty) = true
  · have hfits : e.config.enabled = true → e.matcher.SumsFit (lines.map strip) 0 1 := by
      intro henabled
      obtain rfl : lines = [] := by simpa [henabled] using hskip
      exact nofun
    rw [if_pos hskip, if_pos hskip, Except.ok.injEq, and_iff_right hfits, eq_comm]
  · have henabled : e.config.enabled = true := by
      by_contra hdisabled
      simp [hdisabled] at hskip
    rw [if_neg hskip, if_neg hskip, e.matcher.map_checkedScanFrom_eq_ok_iff,
      forall_prop_of_true henabled]

/-- With fewer lines and a narrower window than there are words no scan of a buffer stops. -/
theorem checkedScan_of_lt {lines : List String}
    (h : lines.length + e.config.contextWindow < UInt64.size) (cwd : Option String)
    (stream : Option StreamId) :
    e.checkedScan lines cwd stream = .ok (e.scan lines cwd stream) := by
  refine e.checkedScan_eq_ok_iff.mpr ⟨fun _ => e.matcher.sumsFit_of_le ?_ ?_, rfl⟩
  · rw [List.length_map]
    omega
  · rw [List.length_map]
    exact Nat.le_of_lt h

/-- **Chunks.** A chunk does in a build that checks its sums what it does in a build whose sums
wrap, if the position behind it and the sums of the scan are words, or if there is nothing to scan.
If not, it stops. -/
theorem checkedScanChunk_eq_ok_iff {stream : StreamId} {chunk : List String}
    {cwd : Option String} {result : Engine × List Location} :
    e.checkedScanChunk stream chunk cwd = .ok result ↔
      (e.config.enabled = true → chunk ≠ [] →
        (e.stateOf stream).next + chunk.length < UInt64.size ∧
          e.matcher.SumsFit (e.lead stream ++ chunk.map strip) (e.lead stream).length
            (e.stateOf stream).next) ∧
        result = e.scanChunk stream chunk cwd := by
  rw [checkedScanChunk, scanChunk]
  by_cases hskip : (!e.config.enabled || chunk.isEmpty) = true
  · rw [if_pos hskip, if_pos hskip, Except.ok.injEq, and_iff_right, eq_comm]
    intro henabled hne
    simp [henabled, hne] at hskip
  · have hscanned : e.config.enabled = true ∧ chunk ≠ [] := by simpa using hskip
    rw [if_neg hskip, if_neg hskip, forall_prop_of_true hscanned.1,
      forall_prop_of_true hscanned.2, and_assoc]
    dsimp only
    by_cases hnext : (e.stateOf stream).next + chunk.length < UInt64.size
    · rw [checkedSum_of_lt hnext, and_iff_right hnext]
      exact e.matcher.map_checkedScanFrom_eq_ok_iff
    · rw [checkedSum_of_le (Nat.not_lt.mp hnext)]
      exact iff_of_false nofun fun hfits => hnext hfits.1

/-- With fewer lines and a narrower window than there are words no chunk stops. -/
theorem checkedScanChunk_of_lt {stream : StreamId} {chunk : List String}
    (hnext : (e.stateOf stream).next + chunk.length < UInt64.size)
    (h : (e.lead stream).length + chunk.length + e.config.contextWindow ≤ UInt64.size)
    (cwd : Option String) :
    e.checkedScanChunk stream chunk cwd = .ok (e.scanChunk stream chunk cwd) := by
  refine e.checkedScanChunk_eq_ok_iff.mpr
    ⟨fun _ _ => ⟨hnext, e.matcher.sumsFit_of_le ?_ ?_⟩, rfl⟩
  · rw [List.length_append, List.length_map, Nat.add_sub_cancel_left]
    exact Nat.le_of_lt hnext
  · rw [List.length_append, List.length_map]
    exact h

end Engine

end TraceScan
