import TraceScan.Proofs.Engine.Chunks

/-!
# Buffers and views

A buffer that is scanned for a stream takes the place of all that came of the stream before: its
last lines are the view, and the next chunk goes on behind it. A buffer of no lines is dropped
instead, and takes the place of nothing. So the view shows the buffer if and only if the buffer has
lines, or no lines had come before it that an empty one should replace: `scan_shows_buffer_iff`.
-/

namespace TraceScan.Engine

/-! ## Streams with a state -/

section State

variable {e : Engine} {s : StreamId} {lines : List String}

/-- After an action an engine has a state of a stream exactly when lines of it were delivered. -/
theorem get?_streams_act_eq_none_iff (h : e.streams.get? s = none ↔ lines = []) (action : Action) :
    (e.act action).1.streams.get? s = none ↔ action.deliver s e.config.enabled lines = [] := by
  cases action with
  | setUp config => exact h
  | setEnabled enabled => exact h
  | changeRegistry change => exact h
  | matchLine line cwd => exact h
  | scan buffer cwd stream =>
    rw [act, Action.deliver, get?_streams_scan]
    split
    · next hcond => exact iff_of_false (Option.some_ne_none _) hcond.2.2
    · exact h
  | scanChunk stream chunk cwd =>
    rw [act, Action.deliver, get?_streams_scanChunk]
    by_cases hcond : e.config.enabled = true ∧ stream = s
    · rw [if_pos hcond, List.append_eq_nil_iff]
      by_cases hne : chunk = []
      · rw [if_neg (by simp [hne]), h, and_iff_left hne]
      · rw [if_pos ⟨hcond.1, hcond.2, hne⟩]
        exact iff_of_false (Option.some_ne_none _) fun hnil => hne hnil.2
    · rw [if_neg hcond, if_neg (by tauto)]
      exact h
  | resetStream stream =>
    show (e.streams.erase stream).get? s = none ↔ _
    rw [Action.deliver, PositionMap.get?_erase]
    by_cases hs : stream = s
    · rw [if_pos hs, if_pos hs.symm]
      exact iff_of_true rfl rfl
    · rw [if_neg hs, if_neg (Ne.symm hs)]
      exact h
  | clearAll => exact iff_of_true rfl rfl

/-- After a history an engine has a state of a stream exactly when lines of it were delivered. -/
theorem get?_streams_run_eq_none_iff (h : e.streams.get? s = none ↔ lines = [])
    (history : List Action) :
    (e.run history).1.streams.get? s = none ↔ e.delivered s lines history = [] := by
  induction history generalizing e lines with
  | nil => exact h
  | cons action history ih => exact ih (get?_streams_act_eq_none_iff h action)

end State

/-! ## What a buffer should leave -/

/-- Whether a stream stands as if some lines were all that ever came of it. -/
structure ShowsBuffer (e : Engine) (s : StreamId) (lines : List String) : Prop where
  /-- The view holds the last lines that fit, and counts those in front of them. -/
  view : (e.stateOf s).view.lines =
    (lines.map strip).drop (lines.length - e.config.bufferSize)
  first : (e.stateOf s).view.first = lines.length - (e.stateOf s).view.size + 1
  next : (e.stateOf s).next = lines.length + 1
  /-- The next chunk goes on behind the lines, and has no other context than the last of them. -/
  chunk : ∀ chunk cwd, (e.scanChunk s chunk cwd).2 =
    let lead := (lines.map strip).drop
      (lines.length - min e.config.contextWindow e.config.bufferSize)
    if e.config.enabled then
      e.matcher.scanFrom (lead ++ chunk.map strip) lead.length cwd (lines.length + 1)
    else []

variable {e : Engine} {s : StreamId} {lines : List String}

/-- A stream of which some lines have come, and nothing else, shows them. -/
theorem showsBuffer_of_after (h : e.stateOf s = .after e.config.bufferSize lines) :
    e.ShowsBuffer s lines := by
  have hview : (e.stateOf s).view =
      (StreamState.fresh e.config.bufferSize).view.extend (lines.map strip) := by
    rw [h, StreamState.after]
  have hnext : (e.stateOf s).next = lines.length + 1 := by rw [h, StreamState.after]
  have hlead : e.lead s = (lines.map strip).drop
      (lines.length - min e.config.contextWindow e.config.bufferSize) := by
    rw [lead, hview, ← List.length_map strip]
    exact RollingView.tail_extend_empty_min _ _ _
  have hshows : (e.stateOf s).view.ShowsEnd (lines.map strip) := by
    rw [hview]
    exact (RollingView.showsEnd_nil _).extend _
  refine ⟨?_, ?_, hnext, fun chunk cwd => ?_⟩
  · rw [hview, StreamState.fresh, RollingView.extend_eq (Nat.zero_le _)]
    simp [RollingView.size]
  · have hsize := hshows.first_add_size
    have hpos := hshows.first_pos
    rw [List.length_map] at hsize
    omega
  · cases henabled : e.config.enabled with
    | false => rw [e.scanChunk_of_disabled s cwd henabled, if_neg Bool.false_ne_true]
    | true => rw [e.scanChunk_snd s cwd henabled, hlead, hnext, if_pos rfl]

/-- A buffer with lines leaves its stream with what has come of these lines. -/
theorem stateOf_scan (henabled : e.config.enabled = true) (hne : lines ≠ [])
    (cwd : Option String) :
    (e.scan lines cwd (some s)).1.stateOf s =
      .after (e.scan lines cwd (some s)).1.config.bufferSize lines := by
  obtain ⟨streams, index, hfst⟩ := e.scan_fst lines cwd (some s)
  have hconfig : (e.scan lines cwd (some s)).1.config = e.config := by rw [hfst]
  rw [stateOf, get?_streams_scan, if_pos ⟨henabled, rfl, hne⟩, hconfig]
  rfl

/-- **Replacement.** Whatever has come of a stream, a buffer that is scanned for it leaves the
stream as if the buffer were all that ever came, if and only if the buffer has lines or nothing was
there to be replaced. A buffer with lines has a view to show for itself; one without lines leaves
the engine as it was. -/
theorem scan_shows_buffer_iff {start : Engine} (hs : start.streams.get? s = none)
    {history : List Action} (henabled : (start.run history).1.config.enabled = true)
    (lines : List String) (cwd : Option String) :
    let e := (start.run history).1
    let scanned := (e.scan lines cwd (some s)).1
    (scanned.ShowsBuffer s lines ↔ lines ≠ [] ∨ start.delivered s [] history = []) ∧
      (lines ≠ [] → scanned.view? s = some (scanned.stateOf s).view) ∧
      (lines = [] → scanned = e) := by
  intro e scanned
  have hkept : lines = [] → scanned = e := by
    rintro rfl
    exact congrArg Prod.fst (e.scan_nil cwd (some s))
  refine ⟨⟨fun hshows => ?_, ?_⟩, fun hne => ?_, hkept⟩
  · by_cases hne : lines = []
    · -- the stream counts the lines that were delivered, and an empty buffer counts none
      have hnext : (e.stateOf s).next = (start.delivered s [] history).length + 1 := by
        refine next_stateOf_run ?_ history
        rw [stateOf_of_get?_eq_none hs]
        rfl
      have hshown : (e.stateOf s).next = lines.length + 1 := hkept hne ▸ hshows.next
      rw [hne] at hshown
      exact Or.inr (List.eq_nil_of_length_eq_zero (Nat.succ.inj (hnext.symm.trans hshown)))
    · exact Or.inl hne
  · intro h
    by_cases hne : lines = []
    · have hnone : e.streams.get? s = none :=
        (get?_streams_run_eq_none_iff (iff_of_true hs rfl) history).mpr (h.resolve_left (· hne))
      rw [hkept hne, hne]
      exact showsBuffer_of_after (stateOf_of_get?_eq_none hnone)
    · exact showsBuffer_of_after (stateOf_scan henabled hne cwd)
  · show (e.scan lines cwd (some s)).1.view? s = some ((e.scan lines cwd (some s)).1.stateOf s).view
    rw [view?, stateOf, get?_streams_scan, if_pos ⟨henabled, rfl, hne⟩]
    rfl

/-- A buffer takes the place of a chunk, and the note behind it gets the cue of the buffer. -/
theorem buffer_replaces_chunk :
    let e := (notes.run [.scanChunk 4 ["x", "two"] none]).1
    let scanned := (e.scan ["\x1b[1mone\x1b[0m"] none (some 4)).1
    notes.streams.get? 4 = none ∧ e.config.enabled = true ∧
      scanned.ShowsBuffer 4 ["\x1b[1mone\x1b[0m"] ∧
      (scanned.stateOf 4).view.lines = ["one"] ∧
      ((scanned.scanChunk 4 ["todo:8"] none).2.map fun l => (l.position, l.grammar)) =
        [(2, "first")] := by
  intro e scanned
  have hshows := @scan_shows_buffer_iff 4 notes rfl [.scanChunk 4 ["x", "two"] none] rfl
    ["\x1b[1mone\x1b[0m"] none
  exact ⟨rfl, rfl, hshows.1.mpr (Or.inl (List.cons_ne_nil _ _)), by decide +kernel,
    by decide +kernel⟩

/-- A buffer of no lines leaves the view of an earlier chunk, and the note behind it still gets the
cue of that chunk. -/
theorem empty_buffer_replaces_nothing :
    let e := (notes.run [.scanChunk 4 ["x", "two"] none]).1
    let scanned := (e.scan [] none (some 4)).1
    e.config.enabled = true ∧ ¬ scanned.ShowsBuffer 4 [] ∧
      (scanned.stateOf 4).view.lines = ["two"] ∧
      ((scanned.scanChunk 4 ["todo:8"] none).2.map fun l => (l.position, l.grammar)) =
        [(3, "second")] := by
  intro e scanned
  refine ⟨rfl, fun hshows => ?_, by decide +kernel, by decide +kernel⟩
  have hnext : (scanned.stateOf 4).next = 3 := by decide +kernel
  have hshown : (scanned.stateOf 4).next = 1 := hshows.next
  omega

end TraceScan.Engine
