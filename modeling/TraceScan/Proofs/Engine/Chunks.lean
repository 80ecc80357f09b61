import TraceScan.Proofs.Engine.History
import TraceScan.Proofs.Matching.Sequence
import TraceScan.Proofs.RollingView

/-!
# Scanning in chunks

A stream that is delivered in chunks is scanned like a buffer of all its lines, as far as they have
come: `chunked_scan_refines_buffer_scan`. The invariant is the state of the stream between two
chunks, `StreamState.after`: the next position counts the lines that came, and the view holds the
last of them. It serves as context for the next chunk because its capacity is no less than the
width of the context window.
-/

namespace TraceScan

/-- The state of a stream when some lines have come to it, and nothing else. -/
def StreamState.after (capacity : Nat) (lines : List String) : StreamState :=
  ⟨lines.length + 1, (StreamState.fresh capacity).view.extend (lines.map strip)⟩

/-- More lines go to the end of the view and move the next position. -/
theorem StreamState.after_append (capacity : Nat) (lines chunk : List String) :
    StreamState.after capacity (lines ++ chunk) =
      ⟨(StreamState.after capacity lines).next + chunk.length,
        ((StreamState.after capacity lines).view.resize capacity).extend (chunk.map strip)⟩ := by
  have hresize : (StreamState.after capacity lines).view.resize capacity =
      (StreamState.after capacity lines).view := by
    have hview : (StreamState.after capacity lines).view.size ≤
        (StreamState.after capacity lines).view.capacity :=
      RollingView.size_extend_le (Nat.zero_le _) _
    have hcapacity : (StreamState.after capacity lines).view.capacity = capacity :=
      RollingView.capacity_extend_empty capacity _
    nth_rewrite 2 [← hcapacity]
    exact RollingView.resize_capacity hview
  rw [hresize, after, after, List.map_append, RollingView.extend_append, List.length_append,
    Nat.add_right_comm]

namespace Engine

variable {e : Engine} {s : StreamId} {lines : List String}

/-! ## One chunk -/

/-- A chunk keeps the invariant. -/
theorem stateOf_scanChunk_after (henabled : e.config.enabled = true)
    (h : e.stateOf s = .after e.config.bufferSize lines) (chunk : List String)
    (cwd : Option String) :
    (e.scanChunk s chunk cwd).1.stateOf s = .after e.config.bufferSize (lines ++ chunk) := by
  by_cases hne : chunk = []
  · rw [hne, scanChunk_nil, List.append_nil, h]
  · rw [stateOf, get?_streams_scanChunk, if_pos ⟨henabled, rfl, hne⟩, Option.getD_some, h,
      StreamState.after_append]

/-- **One chunk.** The locations in a chunk are those of a scan of all lines so far that lie behind
the lines that came before. -/
theorem scanChunk_snd_of_after (henabled : e.config.enabled = true)
    (hbuffer : e.config.contextWindow ≤ e.config.bufferSize)
    (h : e.stateOf s = .after e.config.bufferSize lines) {chunk : List String}
    (hsize : (lines ++ chunk).length + e.config.contextWindow ≤ UInt64.size) (cwd : Option String) :
    (e.scanChunk s chunk cwd).2 =
      (e.matcher.scanFrom ((lines ++ chunk).map strip) 0 cwd 1).filter
        fun l => lines.length < l.position := by
  have hlead : e.lead s = (lines.map strip).drop (lines.length - e.config.contextWindow) := by
    rw [lead, h, StreamState.after, ← List.length_map strip]
    exact RollingView.tail_extend_empty hbuffer _
  have hlength : (e.lead s).length = lines.length - (lines.length - e.config.contextWindow) := by
    rw [hlead, List.length_drop, List.length_map]
  -- the lead and the chunk are what is left of all lines without those that are out of reach
  have hlines : e.lead s ++ chunk.map strip =
      ((lines ++ chunk).map strip).drop (lines.length - e.config.contextWindow) := by
    rw [hlead, List.map_append, List.drop_append_of_le_length]
    rw [List.length_map]
    exact Nat.sub_le _ _
  have hnext : (e.stateOf s).next = lines.length + 1 := by rw [h, StreamState.after]
  rw [e.scanChunk_snd s cwd henabled, hlength, hlines, hnext, e.matcher.filter_scanFrom]
  exact e.matcher.scanFrom_drop (Nat.le_refl _) (by rw [List.length_map]; exact hsize) cwd _

/-- The first lines of a stream may come as a buffer or as a chunk. -/
theorem scan_some_eq_scanChunk (hs : e.streams.get? s = none) (first : List String)
    (cwd : Option String) : e.scan first cwd (some s) = e.scanChunk s first cwd := by
  cases henabled : e.config.enabled with
  | false => rw [e.scan_of_disabled cwd henabled, e.scanChunk_of_disabled s cwd henabled]
  | true =>
    by_cases hne : first = []
    · rw [hne, scan_nil, scanChunk_nil]
    · have hfresh := stateOf_of_get?_eq_none hs
      have hlead : e.lead s = [] := by
        rw [lead, hfresh]
        exact List.drop_nil
      have hresize : (e.stateOf s).view.resize e.config.bufferSize =
          (StreamState.fresh e.config.bufferSize).view := by
        rw [hfresh]
        exact RollingView.resize_capacity (Nat.zero_le _)
      have hnext : (e.stateOf s).next = 1 := by rw [hfresh, StreamState.fresh]
      rw [e.scan_some s cwd henabled hne, e.scanChunk_of_ne_nil s cwd henabled hne, hlead,
        hresize, hnext, List.nil_append, List.length_nil, Nat.add_comm 1]

/-! ## All chunks -/

/-- A stream that starts in the state after some lines gives, for each chunk, the locations of a
scan of all lines so far that lie behind the earlier ones. -/
theorem run_scanChunk_of_after (henabled : e.config.enabled = true)
    (hbuffer : e.config.contextWindow ≤ e.config.bufferSize)
    (h : e.stateOf s = .after e.config.bufferSize lines) {chunks : List (List String)}
    (hsize : (lines ++ chunks.flatten).length + e.config.contextWindow ≤ UInt64.size)
    (cwd : Option String) {k : Nat} (hk : k < chunks.length) :
    (e.run (chunks.map fun chunk => .scanChunk s chunk cwd)).2[k]? =
      some ((e.matcher.scanFrom ((lines ++ (chunks.take (k + 1)).flatten).map strip) 0 cwd 1).filter
        fun l => (lines ++ (chunks.take k).flatten).length < l.position) := by
  -- on the chunks, for every engine and all lines that may have come before
  induction chunks generalizing e lines k with
  | nil => exact absurd hk (Nat.not_lt_zero k)
  | cons chunk chunks ih =>
    rw [List.flatten_cons, ← List.append_assoc] at hsize
    have hchunk : (lines ++ chunk).length + e.config.contextWindow ≤ UInt64.size := by
      rw [List.length_append] at hsize
      omega
    cases k with
    | zero =>
      rw [List.take_succ_cons, List.take_zero, List.take_zero, List.flatten_singleton,
        List.flatten_nil, List.append_nil, ← scanChunk_snd_of_after henabled hbuffer h hchunk]
      rfl
    | succ k =>
      obtain ⟨streams, index, hfst⟩ := e.scanChunk_fst s chunk cwd
      have hafter := stateOf_scanChunk_after henabled h chunk cwd
      rw [hfst] at hafter
      have hrest := ih (e := { e with streams := streams, index := index }) henabled hbuffer
        hafter hsize (Nat.lt_of_succ_lt_succ hk)
      rw [List.take_succ_cons, List.take_succ_cons, List.flatten_cons, List.flatten_cons,
        ← List.append_assoc, ← List.append_assoc]
      show ((e.scanChunk s chunk cwd).1.run _).2[k]? = _
      rw [hfst, hrest]
      rfl

/-- **Chunks and buffers.** Of a stream that is delivered in chunks, each chunk gives the locations
that a scan of all lines so far gives behind the earlier chunks. It makes no difference, then or
later, whether the first lines are delivered as a chunk or as a buffer. -/
theorem chunked_scan_refines_buffer_scan (henabled : e.config.enabled = true)
    (hbuffer : e.config.contextWindow ≤ e.config.bufferSize) (hs : e.streams.get? s = none)
    (chunks : List (List String))
    (hsize : chunks.flatten.length + e.config.contextWindow < UInt64.size) (cwd : Option String) :
    (∀ k < chunks.length,
      (e.run (chunks.map fun chunk => .scanChunk s chunk cwd)).2[k]? =
        some ((e.scan (chunks.take (k + 1)).flatten cwd none).2.filter
          fun l => (chunks.take k).flatten.length < l.position)) ∧
    ∀ first later, e.run (.scan first cwd (some s) :: later) =
      e.run (.scanChunk s first cwd :: later) := by
  have hafter : e.stateOf s = .after e.config.bufferSize [] := stateOf_of_get?_eq_none hs
  constructor
  · intro k hk
    rw [e.scan_snd cwd henabled]
    exact run_scanChunk_of_after henabled hbuffer hafter (Nat.le_of_lt hsize) cwd hk
  · intro first later
    rw [run, run, act, act, scan_some_eq_scanChunk hs]

/-- Notes in the third chunk are found like in a buffer, the first of them by the grammar whose cue
stands in the first chunk. -/
theorem note_in_third_chunk :
    let chunks := [["", "two"], [], ["todo:8", "done:9"]]
    let buffer := ["", "two", "todo:8", "done:9"]
    let eighth : Location := ⟨"second", "todo", "todo", 8, none, none, 3, "todo:8"⟩
    let ninth : Location := ⟨"first", "done", "done", 9, none, none, 4, "done:9"⟩
    let reported := (notes.run (chunks.map fun chunk => .scanChunk 4 chunk none)).2
    reported[2]? = some ((notes.scan buffer none none).2.filter fun l => 2 < l.position) ∧
      (notes.scan buffer none none).2 = [eighth, ninth] ∧
      reported = [[], [], [eighth, ninth]] := by
  intro chunks buffer eighth ninth reported
  obtain ⟨hchunks, -⟩ := chunked_scan_refines_buffer_scan (e := notes) (s := 4) rfl (by decide) rfl
    chunks (by decide) none
  exact ⟨hchunks 2 (by decide), by decide +kernel, by decide +kernel⟩

end Engine

end TraceScan
