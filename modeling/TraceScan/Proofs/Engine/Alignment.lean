import TraceScan.Proofs.Engine.History
import TraceScan.Proofs.Matching.Sequence
import TraceScan.Proofs.RollingView

/-!
# Positions, views and entries

The next position of a stream, the view of its latest lines and the entries of the index are kept
apart, and change at different places. All of them count the same lines, which no engine keeps: the
ones that were delivered since the stream was last forgotten. The invariant `Aligned` compares the
three with these lines. It holds of an engine that knows nothing of the stream, and every action
keeps it that does not scan another buffer over lines of the stream (`Aligned.act`). What follows
for every history is `positions_stay_aligned`.
-/

namespace TraceScan

/-! ## Locations of lines -/

/-- Whether a location stands at the position of one of some lines and holds its visible text. -/
structure Location.Marks (l : Location) (lines : List String) : Prop where
  position_pos : 0 < l.position
  text : lines[l.position - 1]?.map strip = some l.text

/-- The position of a line is at most the number of lines. -/
theorem Location.Marks.position_le {l : Location} {lines : List String} (h : l.Marks lines) :
    l.position ≤ lines.length := by
  obtain ⟨raw, hraw, -⟩ := Option.map_eq_some_iff.mp h.text
  have hlength := (List.getElem?_eq_some_iff.mp hraw).1
  omega

/-- Lines stay where they are when others come behind them. -/
theorem Location.Marks.append {l : Location} {lines : List String} (h : l.Marks lines)
    (more : List String) : l.Marks (lines ++ more) where
  position_pos := h.position_pos
  text := by
    have hpos := h.position_pos
    have hle := h.position_le
    rw [List.getElem?_append_left (by omega), h.text]

/-- A line that comes behind some lines has its position behind theirs. -/
theorem Location.marks_append {l : Location} {lines more : List String} {i : Nat}
    (hposition : l.position = lines.length + 1 + i) (htext : more[i]?.map strip = some l.text) :
    l.Marks (lines ++ more) where
  position_pos := by omega
  text := by
    have hindex : l.position - 1 = lines.length + i := by omega
    rw [hindex, List.getElem?_append_right (Nat.le_add_right _ _), Nat.add_sub_cancel_left, htext]

namespace Engine

/-! ## Histories of a stream -/

/-- Whether an engine knows nothing of a stream. -/
structure Unknown (e : Engine) (s : StreamId) : Prop where
  state : e.streams.get? s = none
  entries : e.index.entries s = []

/-- Whether an action makes an engine forget a stream. -/
def Action.Forgets (s : StreamId) : Action → Prop
  | .resetStream stream => stream = s
  | .clearAll => True
  | .setUp _ | .setEnabled _ | .changeRegistry _ | .matchLine _ _ | .scan _ _ _
  | .scanChunk _ _ _ => False

/-- Whether an action puts no buffer in the place of the lines that were delivered to a stream. A
buffer may be the first delivery. -/
def Action.Continues (s : StreamId) (enabled : Bool) (lines : List String) : Action → Prop
  | .scan buffer _ stream => enabled = true → stream = some s → buffer ≠ [] → lines = []
  | .setUp _ | .setEnabled _ | .changeRegistry _ | .matchLine _ _ | .scanChunk _ _ _
  | .resetStream _ | .clearAll => True

/-- Whether no action of a history puts a buffer in the place of the lines that were delivered to a
stream. -/
def Continues (e : Engine) (s : StreamId) (lines : List String) : List Action → Prop
  | [] => True
  | action :: actions =>
    action.Continues s e.config.enabled lines ∧
      (e.act action).1.Continues s (action.deliver s e.config.enabled lines) actions

/-- Nothing is known of a stream that was just forgotten. -/
theorem unknown_resetStream (e : Engine) (s : StreamId) : (e.resetStream s).Unknown s where
  state := by rw [resetStream, PositionMap.get?_erase, if_pos rfl]
  entries := by
    rw [resetStream, LocationIndex.entries, LocationIndex.stream_clear, if_pos rfl]

/-- Nothing is known of any stream when all were forgotten. -/
theorem unknown_clearAll (e : Engine) (s : StreamId) : e.clearAll.Unknown s :=
  ⟨rfl, rfl⟩

/-- Nothing is known of a stream when a history is over that ends by forgetting it, or is empty. -/
theorem unknown_run {e : Engine} {s : StreamId} (he : e.Unknown s) {history : List Action}
    (h : ∀ action ∈ history.getLast?, action.Forgets s) : (e.run history).1.Unknown s := by
  rcases List.eq_nil_or_concat history with rfl | ⟨earlier, action, hhistory⟩
  · exact he
  · rw [List.concat_eq_append] at hhistory
    subst hhistory
    have hforgets : action.Forgets s := h action (by simp)
    rw [run_append]
    cases action with
    | resetStream stream =>
      obtain rfl : stream = s := hforgets
      exact unknown_resetStream _ stream
    | clearAll => exact unknown_clearAll _ s
    | setUp config => exact hforgets.elim
    | setEnabled enabled => exact hforgets.elim
    | changeRegistry change => exact hforgets.elim
    | matchLine line cwd => exact hforgets.elim
    | scan lines cwd stream => exact hforgets.elim
    | scanChunk stream chunk cwd => exact hforgets.elim

/-! ## The invariant -/

/-- The next position, the view and the entries of a stream fit the lines that were delivered to
it. -/
structure Aligned (e : Engine) (s : StreamId) (lines : List String) : Prop where
  next : (e.stateOf s).next = lines.length + 1
  view : ∀ v, e.view? s = some v → v.ShowsEnd (lines.map strip)
  entries : ∀ p l, (p, l) ∈ e.index.entries s → l.position = p ∧ l.Marks lines

variable {e : Engine} {s : StreamId} {lines : List String}

/-- An engine that knows nothing of a stream fits no lines. -/
theorem Unknown.aligned (h : e.Unknown s) : Aligned e s [] where
  next := by
    rw [stateOf_of_get?_eq_none h.state]
    rfl
  view v hv := by
    rw [view?, h.state] at hv
    cases hv
  entries p l hl := by
    rw [h.entries] at hl
    cases hl

/-- The view that the next chunk continues shows the end of the lines. -/
theorem Aligned.showsEnd_stateOf (h : Aligned e s lines) :
    (e.stateOf s).view.ShowsEnd (lines.map strip) := by
  cases hstate : e.streams.get? s with
  | some state =>
    refine h.view _ ?_
    rw [view?, stateOf, hstate]
    rfl
  | none =>
    -- without a state there are no lines
    have hnext := h.next
    rw [stateOf_of_get?_eq_none hstate] at hnext ⊢
    have hnil : lines = [] := List.eq_nil_of_length_eq_zero (Nat.succ.inj hnext).symm
    rw [hnil]
    exact RollingView.showsEnd_nil _

/-- The locations in a chunk stand for its lines, behind the lines that came before. -/
theorem Aligned.exists_of_mem_scanChunk (h : Aligned e s lines) {chunk : List String}
    {cwd : Option String} {l : Location} (hl : l ∈ (e.scanChunk s chunk cwd).2) :
    ∃ i, l.position = lines.length + 1 + i ∧ chunk[i]?.map strip = some l.text := by
  cases henabled : e.config.enabled with
  | false =>
    rw [e.scanChunk_of_disabled s cwd henabled] at hl
    cases hl
  | true =>
    rw [e.scanChunk_snd s cwd henabled, h.next] at hl
    exact e.matcher.exists_of_mem_scanFrom hl

/-- The locations in a chunk mark lines that were delivered. -/
theorem Aligned.marks_of_mem_scanChunk (h : Aligned e s lines) {chunk : List String}
    {cwd : Option String} {l : Location} (hl : l ∈ (e.scanChunk s chunk cwd).2) :
    l.Marks ((Action.scanChunk s chunk cwd).deliver s e.config.enabled lines) := by
  obtain ⟨i, hposition, htext⟩ := h.exists_of_mem_scanChunk hl
  cases henabled : e.config.enabled with
  | false =>
    rw [e.scanChunk_of_disabled s cwd henabled] at hl
    cases hl
  | true =>
    rw [Action.deliver, if_pos ⟨rfl, rfl⟩]
    exact Location.marks_append hposition htext

/-- The locations in a buffer mark lines that were delivered. -/
theorem marks_of_mem_scan {buffer : List String} {cwd : Option String} {l : Location}
    (hl : l ∈ (e.scan buffer cwd (some s)).2) :
    l.Marks ((Action.scan buffer cwd (some s)).deliver s e.config.enabled lines) := by
  cases henabled : e.config.enabled with
  | false =>
    rw [e.scan_of_disabled cwd henabled] at hl
    cases hl
  | true =>
    have hne : buffer ≠ [] := by
      rintro rfl
      rw [scan_nil] at hl
      cases hl
    rw [e.scan_snd cwd henabled, ← List.nil_append (buffer.map strip)] at hl
    obtain ⟨i, hposition, htext⟩ := e.matcher.exists_of_mem_scanFrom hl
    rw [Action.deliver, if_pos ⟨rfl, rfl, hne⟩, ← List.nil_append buffer]
    exact Location.marks_append hposition htext

/-! ## Single actions -/

/-- After an action the view of a stream shows the end of the lines that were delivered. -/
theorem Aligned.view_act (h : Aligned e s lines) {action : Action} {v : RollingView}
    (hv : (e.act action).1.view? s = some v) :
    v.ShowsEnd ((action.deliver s e.config.enabled lines).map strip) := by
  by_cases hconcerns : action.concerns s = true
  · cases action with
    | scan buffer cwd stream =>
      rw [act, view?, get?_streams_scan] at hv
      rw [Action.deliver]
      by_cases hcond : e.config.enabled = true ∧ stream = some s ∧ buffer ≠ []
      · rw [if_pos hcond] at hv ⊢
        cases hv
        exact (RollingView.showsEnd_nil _).extend (buffer.map strip)
      · rw [if_neg hcond] at hv ⊢
        exact h.view v hv
    | scanChunk stream chunk cwd =>
      rw [act, view?, get?_streams_scanChunk] at hv
      rw [Action.deliver]
      by_cases hcond : e.config.enabled = true ∧ stream = s
      · rw [if_pos hcond, List.map_append]
        -- an empty chunk leaves the view as it is, and another one resizes it
        by_cases hne : chunk = []
        · rw [if_neg (by simp [hne])] at hv
          rw [hne, List.map_nil, List.append_nil]
          exact h.view v hv
        · rw [if_pos ⟨hcond.1, hcond.2, hne⟩] at hv
          cases hv
          exact (h.showsEnd_stateOf.resize _).extend _
      · rw [if_neg (by tauto)] at hv
        rw [if_neg hcond]
        exact h.view v hv
    | resetStream stream =>
      obtain rfl : stream = s := by simpa [Action.concerns] using hconcerns
      rw [act, view?, (e.unknown_resetStream stream).state] at hv
      cases hv
    | clearAll => cases hv
    | setUp config => exact h.view v hv
    | setEnabled enabled => exact h.view v hv
    | changeRegistry change => exact h.view v hv
    | matchLine line cwd => exact h.view v hv
  · have hother : action.concerns s = false := by simpa using hconcerns
    rw [view?, e.get?_streams_act hother] at hv
    rw [Action.deliver_of_concerns_eq_false hother]
    exact h.view v hv

/-- After an action that continues a stream, the entries stand for lines that were delivered. -/
theorem Aligned.entries_act (h : Aligned e s lines) {action : Action}
    (ha : action.Continues s e.config.enabled lines) {p : Nat} {l : Location}
    (hl : (p, l) ∈ (e.act action).1.index.entries s) :
    l.position = p ∧ l.Marks (action.deliver s e.config.enabled lines) := by
  by_cases hconcerns : action.concerns s = true
  · cases action with
    | scan buffer cwd stream =>
      obtain rfl : stream = some s := by simpa [Action.concerns] using hconcerns
      rw [act, index_scan] at hl
      rcases LocationIndex.mem_entries_storeAll hl with ⟨hnew, hp⟩ | hold
      · exact ⟨hp, marks_of_mem_scan hnew⟩
      · obtain ⟨hp, hmarks⟩ := h.entries p l hold
        rw [Action.deliver]
        split
        · -- the buffer is the first delivery, and of no lines there are no entries
          obtain rfl : lines = [] := ha (by tauto) rfl (by tauto)
          exact absurd hmarks.position_le (Nat.not_le_of_lt hmarks.position_pos)
        · exact ⟨hp, hmarks⟩
    | scanChunk stream chunk cwd =>
      obtain rfl : stream = s := by simpa [Action.concerns] using hconcerns
      rw [act, index_scanChunk] at hl
      rcases LocationIndex.mem_entries_storeAll hl with ⟨hnew, hp⟩ | hold
      · exact ⟨hp, h.marks_of_mem_scanChunk hnew⟩
      · obtain ⟨hp, hmarks⟩ := h.entries p l hold
        rw [Action.deliver]
        split
        · exact ⟨hp, hmarks.append chunk⟩
        · exact ⟨hp, hmarks⟩
    | resetStream stream =>
      obtain rfl : stream = s := by simpa [Action.concerns] using hconcerns
      rw [act, (e.unknown_resetStream stream).entries] at hl
      cases hl
    | clearAll => cases hl
    | setUp config => exact h.entries p l hl
    | setEnabled enabled => exact h.entries p l hl
    | changeRegistry change => exact h.entries p l hl
    | matchLine line cwd => exact h.entries p l hl
  · have hother : action.concerns s = false := by simpa using hconcerns
    rw [LocationIndex.entries, e.stream_index_act hother] at hl
    rw [Action.deliver_of_concerns_eq_false hother]
    exact h.entries p l hl

/-- **Steps.** An action that continues a stream keeps it aligned with the lines that were
delivered. -/
theorem Aligned.act (h : Aligned e s lines) {action : Action}
    (ha : action.Continues s e.config.enabled lines) :
    Aligned (e.act action).1 s (action.deliver s e.config.enabled lines) where
  next := next_stateOf_act h.next action
  view _ hv := h.view_act hv
  entries _ _ hl := h.entries_act ha hl

/-! ## Histories -/

/-- **Runs.** A history that continues a stream keeps it aligned with the lines that were
delivered. -/
theorem Aligned.run (h : Aligned e s lines) {history : List Action}
    (hhistory : e.Continues s lines history) :
    Aligned (e.run history).1 s (e.delivered s lines history) := by
  -- on the actions, for every engine and all lines that may have come before
  induction history generalizing e lines with
  | nil => exact h
  | cons action history ih => exact ih (h.act hhistory.1) hhistory.2

/-- **Alignment.** Let a stream be new, or forgotten by the last of some actions, and let it then be
continued, whatever else is done and however the engine is set up anew in between. The next position
is one behind the lines that were delivered since, the view shows the last ones of them at their own
positions, and the entries stand at the positions of lines and hold their visible text. The
locations in the next chunk have the positions that its lines get behind all others. -/
theorem positions_stay_aligned {start : Engine} (hstart : start.Unknown s)
    {before since : List Action} (hbefore : ∀ action ∈ before.getLast?, action.Forgets s)
    (hsince : (start.run before).1.Continues s [] since) :
    let delivered := (start.run before).1.delivered s [] since
    let last := (start.run (before ++ since)).1
    (last.stateOf s).next = delivered.length + 1 ∧
      (∀ chunk cwd, ∀ l ∈ (last.scanChunk s chunk cwd).2, ∃ i,
        l.position = delivered.length + 1 + i ∧ chunk[i]?.map strip = some l.text) ∧
      (∀ v, last.view? s = some v → v.first + v.size = delivered.length + 1 ∧
        ∀ p line, v.get? p = some line → 0 < p ∧ delivered[p - 1]?.map strip = some line) ∧
      ∀ p l, (p, l) ∈ last.index.entries s →
        0 < p ∧ p ≤ delivered.length ∧ l.position = p ∧
          delivered[p - 1]?.map strip = some l.text := by
  intro delivered last
  have haligned : Aligned last s delivered := by
    show Aligned (start.run (before ++ since)).1 s delivered
    rw [run_append]
    exact (unknown_run hstart hbefore).aligned.run hsince
  refine ⟨haligned.next, fun chunk cwd l hl => haligned.exists_of_mem_scanChunk hl, ?_, ?_⟩
  · intro v hv
    have hshows := haligned.view v hv
    refine ⟨by rw [hshows.first_add_size, List.length_map], fun p line hline => ?_⟩
    obtain ⟨hp, hget⟩ := hshows.get?_eq_some hline
    rw [List.getElem?_map] at hget
    exact ⟨hp, hget⟩
  · intro p l hl
    obtain ⟨rfl, hmarks⟩ := haligned.entries p l hl
    exact ⟨hmarks.position_pos, hmarks.position_le, rfl, hmarks.text⟩

/-- A stream that was reset starts with a buffer. It loses a line while the engine is switched off,
and goes on with more lines kept after another set-up. -/
theorem notes_after_reset :
    let before := [.scanChunk 4 ["one", "todo:1"] none, .resetStream 4]
    let since := [.scan ["", "done:2"] none (some 4), .setEnabled false,
      .scanChunk 4 ["lost:3"] none, .setEnabled true,
      .setUp { bufferSize := 2, contextWindow := 2, languages := ["none"],
               customGrammars := [Registry.noteGrammar "third" "done"] },
      .scanChunk 4 ["\x1b[1mtodo:8\x1b[0m", "two"] none]
    let last := (notes.run (before ++ since)).1
    (last.stateOf 4).next = 5 ∧
      last.view? 4 = some ⟨["todo:8", "two"], 2, 3⟩ ∧
      (last.index.entries 4).map (fun x => (x.1, x.2.text, x.2.grammar)) =
        [(2, "done:2", "first"), (3, "todo:8", "third")] := by
  intro before since last
  obtain ⟨hnext, -⟩ := @positions_stay_aligned 4 notes ⟨rfl, rfl⟩ before since
    (by simp [before, Action.Forgets]) (by simp [before, since, Continues, Action.Continues])
  exact ⟨hnext.trans (by decide +kernel), by decide +kernel, by decide +kernel⟩

/-- A buffer that comes in the place of more lines leaves an entry behind its last line. -/
example :
    let e := (notes.run [.scanChunk 4 ["x", "todo:8"] none, .scan ["x"] none (some 4)]).1
    (e.stateOf 4).next = 2 ∧ (e.index.entries 4).map Prod.fst = [2] := by
  decide +kernel

end Engine

end TraceScan
