import TraceScan.Proofs.Engine.Chunks

/-!
# Scanning a stream again

Locations that were found chunk by chunk can differ from those of a scan of all lines, and a scan
does not clear the index. Yet a scan of all lines of a stream leaves nothing in the index that it
did not find itself: `rescan_repairs_index`. The reason is that the positions of the locations do
not depend on the chunks. The invariant of the chunks, `Follows`, says that a location is stored for
captured lines only; the scan finds a location in each of these lines again, and stores it over the
old one.
-/

namespace TraceScan.Engine

/-! ## Growing streams -/

/-- An action that leaves the registry as it is and the engine switched on, and does nothing to a
stream but add lines to it. The configuration may change otherwise. -/
def Action.Extends (s : StreamId) (r : Registry) : Action → Prop
  | .setUp config => config.enabled = true ∧ (Registry.ofConfig config).1 = r
  | .setEnabled enabled => enabled = true
  | .changeRegistry change => r.apply change = r
  | .matchLine _ _ => True
  | .scan _ _ stream => stream ≠ some s
  | .scanChunk _ _ _ => True
  | .resetStream stream => stream ≠ s
  | .clearAll => False

/-- The lines that an action adds to a stream. -/
def Action.added (s : StreamId) : Action → List String
  | .scanChunk stream chunk _ => if stream = s then chunk else []
  | _ => []

/-- An action that extends a stream delivers the lines that it adds. -/
theorem Action.Extends.deliver_eq {s : StreamId} {r : Registry} {action : Action}
    (h : action.Extends s r) (lines : List String) :
    action.deliver s true lines = lines ++ action.added s := by
  cases action with
  | setUp config => exact (List.append_nil lines).symm
  | setEnabled enabled => exact (List.append_nil lines).symm
  | changeRegistry change => exact (List.append_nil lines).symm
  | matchLine line cwd => exact (List.append_nil lines).symm
  | scan buffer cwd stream =>
    have hstream : stream ≠ some s := h
    rw [deliver, if_neg (by simp [hstream])]
    exact (List.append_nil lines).symm
  | scanChunk stream chunk cwd =>
    rw [deliver, added]
    by_cases hs : stream = s
    · rw [if_pos ⟨rfl, hs⟩, if_pos hs]
    · rw [if_neg (by simp [hs]), if_neg hs, List.append_nil]
  | resetStream stream =>
    have hstream : stream ≠ s := h
    rw [deliver, if_neg hstream]
    exact (List.append_nil lines).symm
  | clearAll => exact h.elim

/-- An action that extends a stream leaves the registry as it is and the engine switched on. -/
theorem Action.Extends.keeps {s : StreamId} {e : Engine} (henabled : e.config.enabled = true)
    {action : Action} (h : action.Extends s e.registry) :
    (e.act action).1.config.enabled = true ∧ (e.act action).1.registry = e.registry := by
  cases action with
  | setUp config => exact h
  | setEnabled enabled => exact ⟨h, rfl⟩
  | changeRegistry change => exact ⟨henabled, h⟩
  | matchLine line cwd => exact ⟨henabled, rfl⟩
  | scan buffer cwd stream =>
    obtain ⟨streams, index, hfst⟩ := e.scan_fst buffer cwd stream
    rw [act, hfst]
    exact ⟨henabled, rfl⟩
  | scanChunk stream chunk cwd =>
    obtain ⟨streams, index, hfst⟩ := e.scanChunk_fst stream chunk cwd
    rw [act, hfst]
    exact ⟨henabled, rfl⟩
  | resetStream stream => exact ⟨henabled, rfl⟩
  | clearAll => exact h.elim

/-- An action that extends a stream is a chunk of it, or leaves its entries as they are. -/
theorem Action.Extends.chunk_or_stream_eq {s : StreamId} {r : Registry} {action : Action}
    (h : action.Extends s r) (e : Engine) :
    (∃ chunk cwd, action = .scanChunk s chunk cwd) ∨
      (e.act action).1.index.stream s = e.index.stream s := by
  cases action with
  | setUp config => exact Or.inr rfl
  | setEnabled enabled => exact Or.inr rfl
  | changeRegistry change => exact Or.inr rfl
  | matchLine line cwd => exact Or.inr rfl
  | scan buffer cwd stream =>
    have hne : stream ≠ some s := h
    exact Or.inr (e.stream_index_act (by simp [concerns, hne]))
  | scanChunk stream chunk cwd =>
    by_cases hst : stream = s
    · subst hst
      exact Or.inl ⟨chunk, cwd, rfl⟩
    · exact Or.inr (e.stream_index_act (by simp [concerns, hst]))
  | resetStream stream =>
    have hne : stream ≠ s := h
    exact Or.inr (e.stream_index_act (by simp [concerns, hne]))
  | clearAll => exact h.elim

/-! ## The invariant -/

/-- What holds of an engine when some lines have been added to a stream that was new. -/
structure Follows (e : Engine) (r : Registry) (s : StreamId) (lines : List String) : Prop where
  enabled : e.config.enabled = true
  registry : e.registry = r
  next : (e.stateOf s).next = lines.length + 1
  sorted : (e.index.stream s).Sorted
  /-- Locations are stored for captured lines only. -/
  captured : ∀ p l, e.index.get? s p = some l → ∃ i raw, p = i + 1 ∧ lines[i]? = some raw ∧
    Captured r.ordered (strip raw)

variable {e : Engine} {r : Registry} {s : StreamId} {lines : List String}

/-- The locations in a chunk are those of captured lines. -/
theorem Follows.captured_scanChunk (h : Follows e r s lines) {chunk : List String}
    {cwd : Option String} {l : Location} (hl : l ∈ (e.scanChunk s chunk cwd).2) :
    ∃ i raw, l.position = i + 1 ∧ (lines ++ chunk)[i]? = some raw ∧
      Captured r.ordered (strip raw) := by
  rw [e.scanChunk_snd s cwd h.enabled, h.next] at hl
  obtain ⟨i, hi⟩ := e.matcher.mem_scanFrom.mp hl
  have hposition := (e.matcher.eq_some_of_matchInSequence hi).2
  obtain ⟨line, hline, hcaptured⟩ := e.matcher.exists_matchInSequence_iff.mp ⟨l, hi⟩
  rw [getElem?_lead_append, Option.map_eq_some_iff] at hline
  obtain ⟨raw, hraw, rfl⟩ := hline
  refine ⟨lines.length + i, raw, by omega, ?_, ?_⟩
  · rw [List.getElem?_append_right (Nat.le_add_right _ _), Nat.add_sub_cancel_left, hraw]
  · rw [← h.registry]
    exact hcaptured

/-- Captured lines stay where they are when lines are added. -/
theorem Follows.captured_append (h : Follows e r s lines) (more : List String) {p : Nat}
    {l : Location} (hl : e.index.get? s p = some l) :
    ∃ i raw, p = i + 1 ∧ (lines ++ more)[i]? = some raw ∧ Captured r.ordered (strip raw) := by
  obtain ⟨i, raw, hp, hraw, hcaptured⟩ := h.captured p l hl
  refine ⟨i, raw, hp, ?_, hcaptured⟩
  rw [List.getElem?_append_left (List.getElem?_eq_some_iff.mp hraw).1, hraw]

/-- An action that extends the stream keeps the invariant. -/
theorem Follows.act (h : Follows e r s lines) {action : Action} (ha : action.Extends s r) :
    Follows (e.act action).1 r s (lines ++ action.added s) := by
  have hkeeps := Action.Extends.keeps h.enabled (h.registry.symm ▸ ha)
  have hnext := next_stateOf_act h.next action
  rw [h.enabled, ha.deliver_eq] at hnext
  -- the entries of the stream change only by its own chunks
  refine ⟨hkeeps.1, hkeeps.2.trans h.registry, hnext, ?_, ?_⟩
  · rcases ha.chunk_or_stream_eq e with ⟨chunk, cwd, rfl⟩ | hstream
    · rw [Engine.act, index_scanChunk]
      exact LocationIndex.sorted_stream_storeAll h.sorted _
    · rw [hstream]
      exact h.sorted
  · intro p l hl
    rcases ha.chunk_or_stream_eq e with ⟨chunk, cwd, rfl⟩ | hstream
    · rw [Action.added, if_pos rfl]
      rw [Engine.act, index_scanChunk] at hl
      -- a location at the position is a new one if there is a new one
      by_cases hnew : ∃ k ∈ (e.scanChunk s chunk cwd).2, k.position = p
      · obtain ⟨k, hk, rfl⟩ := hnew
        exact h.captured_scanChunk hk
      · have hold : ∀ k ∈ (e.scanChunk s chunk cwd).2, k.position ≠ p :=
          fun k hk hkp => hnew ⟨k, hk, hkp⟩
        rw [LocationIndex.get?_storeAll_of_forall_ne hold] at hl
        exact h.captured_append chunk hl
    · rw [LocationIndex.get?, hstream] at hl
      exact h.captured_append _ hl

/-- **Growth.** Every history that extends the stream keeps the invariant. -/
theorem Follows.run (h : Follows e r s lines) {history : List Action}
    (hhistory : ∀ action ∈ history, action.Extends s r) :
    Follows (e.run history).1 r s (lines ++ history.flatMap (Action.added s)) := by
  -- on the actions, for every engine and all lines that may have come before
  induction history generalizing e lines with
  | nil =>
    rw [List.flatMap_nil, List.append_nil]
    exact h
  | cons action history ih =>
    rw [List.flatMap_cons, ← List.append_assoc]
    exact ih (h.act (hhistory action List.mem_cons_self))
      fun a ha => hhistory a (List.mem_cons_of_mem action ha)

/-- A stream without entries starts the invariant. -/
theorem follows_nil (henabled : e.config.enabled = true) (hs : e.streams.get? s = none)
    (hentries : e.index.entries s = []) : Follows e e.registry s [] where
  enabled := henabled
  registry := rfl
  next := by
    rw [stateOf_of_get?_eq_none hs]
    rfl
  sorted := by
    rw [LocationIndex.entries] at hentries
    rw [PositionMap.Sorted, hentries]
    exact List.Pairwise.nil
  captured p l hl := by
    rw [LocationIndex.entries] at hentries
    rw [LocationIndex.get?, PositionMap.get?, hentries] at hl
    cases hl

/-! ## The scan of all lines -/

/-- A scan of all lines finds a location wherever one is stored. -/
theorem Follows.exists_mem_scan (h : Follows e r s lines) (cwd : Option String) {p : Nat}
    {l : Location} (hl : e.index.get? s p = some l) :
    ∃ k ∈ (e.scan lines cwd (some s)).2, k.position = p := by
  obtain ⟨i, raw, rfl, hraw, hcaptured⟩ := h.captured p l hl
  have hline : (lines.map strip)[0 + i]? = some (strip raw) := by
    rw [Nat.zero_add, List.getElem?_map, hraw, Option.map_some]
  rw [← h.registry] at hcaptured
  rw [e.scan_snd cwd h.enabled, Nat.add_comm]
  exact e.matcher.exists_mem_scanFrom_iff.mpr ⟨_, hline, hcaptured⟩

/-- **Repair.** A scan of all lines leaves its own locations in the index and no other ones. -/
theorem Follows.entries_scan (h : Follows e r s lines) (cwd : Option String) :
    (e.scan lines cwd (some s)).1.index.entries s =
      (e.scan lines cwd (some s)).2.map fun l => (l.position, l) := by
  have hrise : (e.scan lines cwd (some s)).2.Pairwise fun a b => a.position < b.position := by
    rw [e.scan_snd cwd h.enabled]
    exact e.matcher.pairwise_position_scanFrom _ _ cwd _
  rw [index_scan]
  exact LocationIndex.entries_storeAll h.sorted hrise fun p l => h.exists_mem_scan cwd

/-- **Rescans.** When a new stream has grown by chunks, whatever else was done and however the
configuration was changed in between, a scan of all its lines leaves exactly the locations that it
returns as the entries of the stream. The view and the next position are those that the scan leaves
for any other stream, and depend on the lines and the capacity only. -/
theorem rescan_repairs_index (henabled : e.config.enabled = true) (hs : e.streams.get? s = none)
    (hentries : e.index.entries s = []) {history : List Action}
    (hhistory : ∀ action ∈ history, action.Extends s e.registry)
    (hne : history.flatMap (Action.added s) ≠ []) (cwd : Option String) :
    let before := (e.run history).1
    let lines := history.flatMap (Action.added s)
    let after := before.scan lines cwd (some s)
    after.1.index.entries s = after.2.map (fun l => (l.position, l)) ∧
      after.1.streams.get? s = some (.after before.config.bufferSize lines) ∧
      ∀ t, (before.scan lines cwd (some t)).1.streams.get? t = after.1.streams.get? s := by
  intro before lines after
  have hbefore : Follows before e.registry s lines :=
    (follows_nil henabled hs hentries).run hhistory
  have hstate : ∀ t, (before.scan lines cwd (some t)).1.streams.get? t =
      some (.after before.config.bufferSize lines) := by
    intro t
    rw [get?_streams_scan, if_pos ⟨hbefore.enabled, rfl, hne⟩, StreamState.after]
  exact ⟨hbefore.entries_scan cwd, hstate s, fun t => (hstate t).trans (hstate s).symm⟩

/-- The notes of three chunks, one of them for another stream, are stored anew by a scan of all
lines from another directory. -/
theorem notes_scanned_again :
    let history := [.scanChunk 4 ["two"] none, .scanChunk 7 ["todo:3"] none,
      .scanChunk 4 ["todo:8", "done:9"] none]
    let before := (notes.run history).1
    let after := before.scan ["two", "todo:8", "done:9"] (some "/w") (some 4)
    after.1.index.entries 4 = after.2.map (fun l => (l.position, l)) ∧
      (before.index.locations 4).map Location.path = ["todo", "done"] ∧
      after.2.map Location.path = ["/w/todo", "/w/done"] :=
  ⟨(@rescan_repairs_index notes 4 rfl rfl rfl
      [.scanChunk 4 ["two"] none, .scanChunk 7 ["todo:3"] none,
        .scanChunk 4 ["todo:8", "done:9"] none]
      (by simp [Action.Extends]) (by decide) (some "/w")).1, by decide +kernel⟩

end TraceScan.Engine
