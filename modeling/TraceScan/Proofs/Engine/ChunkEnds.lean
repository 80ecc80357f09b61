import TraceScan.Proofs.Engine.Chunks

/-!
# Where chunks and buffers differ

A chunk is scanned before the lines behind it have come. A location can therefore differ from what a
scan of all lines finds, but only where the context window of its line reaches behind the chunk:
`chunks_agree_within_reach`. The lines in front of the chunk make no difference, because the view
keeps as many of them as the window holds.
-/

namespace TraceScan

/-! ## Lists of lists -/

/-- What passes a filter in one of some lists only, passes it in that list. -/
theorem filter_flatten_of_getElem? {α : Type} {p : α → Bool} {ls : List (List α)} {k : Nat}
    {l : List α} (hk : ls[k]? = some l)
    (hother : ∀ j l', ls[j]? = some l' → j ≠ k → l'.filter p = []) :
    ls.flatten.filter p = l.filter p := by
  induction ls generalizing k with
  | nil => simp at hk
  | cons first ls ih =>
    rw [List.flatten_cons, List.filter_append]
    cases k with
    | zero =>
      have hrest : ls.flatten.filter p = [] := by
        rw [List.filter_eq_nil_iff]
        intro a ha
        obtain ⟨l', hl', hal'⟩ := List.mem_flatten.mp ha
        obtain ⟨j, hj⟩ := List.mem_iff_getElem?.mp hl'
        exact List.filter_eq_nil_iff.mp (hother (j + 1) l' hj (by omega)) a hal'
      obtain rfl : first = l := by simpa using hk
      rw [hrest, List.append_nil]
    | succ k =>
      have hrest : ls.flatten.filter p = l.filter p := by
        refine ih hk fun j l' hj hne => ?_
        exact hother (j + 1) l' hj (by omega)
      rw [hother 0 first rfl (by omega), hrest, List.nil_append]

/-- More of some lists hold no fewer elements. -/
theorem length_flatten_take_le {α : Type} (ls : List (List α)) {a b : Nat} (h : a ≤ b) :
    (ls.take a).flatten.length ≤ (ls.take b).flatten.length := by
  obtain ⟨c, rfl⟩ := Nat.exists_eq_add_of_le h
  rw [List.take_add, List.flatten_append, List.length_append]
  omega

/-- What a scan reports at a position behind some lines is what the line there gives. -/
theorem Matcher.filter_position_filter (m : Matcher) (lines : List String) (n p : Nat)
    (cwd : Option String) :
    ((m.scanFrom lines 0 cwd 1).filter (fun l => n < l.position)).filter
        (fun l => l.position = p) =
      if n < p then (m.matchInSequence lines (p - 1) cwd p).toList else [] := by
  rw [List.filter_filter]
  by_cases hn : n < p
  · rw [if_pos hn, ← m.filter_position_scan lines (Nat.zero_lt_of_lt hn)]
    refine List.filter_congr fun l _ => ?_
    rw [← Bool.decide_and, decide_eq_decide]
    omega
  · rw [if_neg hn, List.filter_eq_nil_iff]
    intro l _
    rw [← Bool.decide_and, decide_eq_true_eq]
    omega

namespace Engine

variable {e : Engine} {s : StreamId}

/-! ## One position -/

/-- Only the chunk that holds a position reports something there, and it reports what the line gives
among the lines that have come. -/
theorem filter_position_chunks (henabled : e.config.enabled = true)
    (hbuffer : e.config.contextWindow ≤ e.config.bufferSize) (hs : e.streams.get? s = none)
    {chunks : List (List String)}
    (hsize : chunks.flatten.length + e.config.contextWindow < UInt64.size) (cwd : Option String)
    {k : Nat} (hk : k < chunks.length) {p : Nat} (hstart : (chunks.take k).flatten.length < p)
    (hend : p ≤ (chunks.take (k + 1)).flatten.length) :
    (e.run (chunks.map fun chunk => .scanChunk s chunk cwd)).2.flatten.filter
        (fun l => l.position = p) =
      (e.matcher.matchInSequence ((chunks.take (k + 1)).flatten.map strip) (p - 1) cwd
        p).toList := by
  have hafter : e.stateOf s = .after e.config.bufferSize [] := stateOf_of_get?_eq_none hs
  have hcall : ∀ j < chunks.length,
      (e.run (chunks.map fun chunk => .scanChunk s chunk cwd)).2[j]? =
        some ((e.matcher.scanFrom ((chunks.take (j + 1)).flatten.map strip) 0 cwd 1).filter
          fun l => (chunks.take j).flatten.length < l.position) := by
    intro j hj
    exact run_scanChunk_of_after henabled hbuffer hafter (Nat.le_of_lt hsize) cwd hj
  rw [filter_flatten_of_getElem? (hcall k hk), e.matcher.filter_position_filter, if_pos hstart]
  intro j found hj hne
  have hlength : j < chunks.length := by
    have hrun := (List.getElem?_eq_some_iff.mp hj).1
    rwa [length_run, List.length_map] at hrun
  rw [hcall j hlength, Option.some.injEq] at hj
  rw [← hj, e.matcher.filter_position_filter]
  rcases Nat.lt_or_gt_of_ne hne with hlt | hgt
  · -- an earlier chunk ends before the position
    have hbefore := length_flatten_take_le chunks (show j + 1 ≤ k from hlt)
    have hnone : e.matcher.matchInSequence ((chunks.take (j + 1)).flatten.map strip) (p - 1) cwd
        p = none := by
      rw [Option.eq_none_iff_forall_ne_some]
      intro l hl
      have hindex := (e.matcher.eq_some_of_matchInSequence hl).1
      rw [List.length_map] at hindex
      omega
    rw [hnone]
    split <;> rfl
  · -- a later chunk starts behind the position
    have hbehind := length_flatten_take_le chunks (show k + 1 ≤ j from hgt)
    rw [if_neg (by omega)]

/-- **Reach.** Of a new stream that is delivered in chunks, the chunks report at a position what a
scan of all lines reports there, in every field, if the context window around the position ends
within its chunk, or no line comes behind its chunk. -/
theorem chunks_agree_within_reach (henabled : e.config.enabled = true)
    (hbuffer : e.config.contextWindow ≤ e.config.bufferSize) (hs : e.streams.get? s = none)
    (chunks : List (List String))
    (hsize : chunks.flatten.length + e.config.contextWindow < UInt64.size) (cwd : Option String)
    (stream : Option StreamId) :
    let reported := (e.run (chunks.map fun chunk => .scanChunk s chunk cwd)).2
    let whole := (e.scan chunks.flatten cwd stream).2
    ∀ k < chunks.length, ∀ p,
      (chunks.take k).flatten.length < p → p ≤ (chunks.take (k + 1)).flatten.length →
      p + e.config.contextWindow ≤ (chunks.take (k + 1)).flatten.length ∨
        (chunks.drop (k + 1)).flatten = [] →
      reported.flatten.filter (fun l => l.position = p) =
        whole.filter (fun l => l.position = p) := by
  intro reported whole k hk p hstart hend hreach
  have hlines : chunks.flatten =
      (chunks.take (k + 1)).flatten ++ (chunks.drop (k + 1)).flatten := by
    rw [← List.flatten_append, List.take_append_drop]
  have hlength := congrArg List.length hlines
  rw [List.length_append] at hlength
  have hwhole : whole.filter (fun l => l.position = p) =
      (e.matcher.matchInSequence (chunks.flatten.map strip) (p - 1) cwd p).toList := by
    rw [← e.matcher.filter_position_scan _ (Nat.zero_lt_of_lt hstart), ← e.scan_snd cwd henabled]
  have hcame : (chunks.take (k + 1)).flatten.map strip =
      (chunks.flatten.map strip).take (chunks.take (k + 1)).flatten.length := by
    rw [← List.map_take, hlines, List.take_left]
  rw [hwhole, filter_position_chunks henabled hbuffer hs hsize cwd hk hstart hend, hcame]
  rcases hreach with hwindow | hlast
  · have hmatcher : e.matcher.window = e.config.contextWindow := rfl
    rw [e.matcher.matchInSequence_take (by omega) (by omega)]
  · rw [hlast, List.append_nil] at hlines
    rw [← hlines, List.take_of_length_le (by rw [List.length_map])]

/-- A note in the second of three chunks is found like in a buffer, behind its cue in the first. -/
theorem note_within_reach :
    let chunks := [["", "two"], ["todo:8", "done:9"], ["x"]]
    let reported := (notes.run (chunks.map fun chunk => .scanChunk 4 chunk none)).2
    let whole := (notes.scan chunks.flatten none none).2
    reported.flatten.filter (fun l => l.position = 3) =
        whole.filter (fun l => l.position = 3) ∧
      (whole.filter fun l => l.position = 3).map Location.grammar = ["second"] :=
  ⟨chunks_agree_within_reach (e := notes) rfl (by decide) rfl
      [["", "two"], ["todo:8", "done:9"], ["x"]] (by decide) none none 1 (by decide) 3 (by decide)
      (by decide) (Or.inl (by decide)),
    by decide +kernel⟩

/-- A cue that comes with the next chunk is too late for the last note of a chunk. -/
example :
    let cued := { Registry.noteGrammar "second" "two" with
      contextMatch := some fun window index => window[index + 1]? == some "two" }
    let registry := (Registry.notes.apply (.unregister "second")).apply (.register cued)
    let e := { notes with registry := registry }
    (e.run [.scanChunk 4 ["todo:8"] none, .scanChunk 4 ["two"] none]).2.map
        (·.map Location.grammar) = [["first"], []] ∧
      (e.scan ["todo:8", "two"] none none).2.map Location.grammar = ["second"] := by
  decide +kernel

end Engine

end TraceScan
