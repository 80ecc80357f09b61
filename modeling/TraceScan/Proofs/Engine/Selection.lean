import TraceScan.Proofs.Engine.History
import TraceScan.Proofs.Matching.Sequence

/-!
# What context can change

A scan reports a line exactly when the line names a location alone. The lines around it only select
the grammar, and only among those of the class that the line has alone. `context_only_selects` says
so of buffers and of chunks, for engines of any history.
-/

namespace TraceScan.Engine

/-- What is reported for some lines, the first of which has the position behind `earlier`, agrees
with what each line names alone. -/
structure Selects (e : Engine) (lines : List String) (cwd : Option String) (earlier : Nat)
    (found : List Location) : Prop where
  /-- A line is reported when it names a location alone. -/
  reported_iff : ∀ i line, lines[i]? = some line →
    ((∃ l ∈ found, l.position = earlier + i + 1) ↔ (e.matchLine line cwd).isSome)
  /-- No line is reported twice, and the lines are reported in their order. -/
  positions_rise : found.Pairwise fun a b => a.position < b.position
  /-- Nothing but the lines is reported, and with the class that the line has alone. -/
  same_class : ∀ l ∈ found, ∃ i line lone c, l.position = earlier + i + 1 ∧
    lines[i]? = some line ∧ e.matchLine line cwd = some lone ∧
    e.registry.classOf? l.grammar = some c ∧ e.registry.classOf? lone.grammar = some c

variable {e : Engine}

/-- An engine that is switched off reports nothing, alone or in a sequence. -/
theorem selects_nil_of_disabled (h : e.config.enabled = false) (lines : List String)
    (cwd : Option String) (earlier : Nat) : e.Selects lines cwd earlier [] where
  reported_iff i line _ := by simp [matchLine, h]
  positions_rise := List.Pairwise.nil
  same_class l hl := absurd hl (List.not_mem_nil)

/-- A line in a sequence is reported when it is matched alone, by grammars of one class. -/
theorem matchInSequence_or_matchLine (hr : e.registry.Reachable)
    (henabled : e.config.enabled = true) {lines : List String} {index : Nat} {raw : String}
    (hline : lines[index]? = some (strip raw)) (cwd : Option String) (position : Nat) :
    (e.matcher.matchInSequence lines index cwd position = none ∧ e.matchLine raw cwd = none) ∨
      ∃ l lone c, e.matcher.matchInSequence lines index cwd position = some l ∧
        e.matchLine raw cwd = some lone ∧ e.registry.classOf? l.grammar = some c ∧
        e.registry.classOf? lone.grammar = some c := by
  have hwf := hr.wellFormed
  have halone : e.matchLine raw cwd = e.matcher.matchLine raw cwd := by
    rw [matchLine, if_pos henabled]
  rw [halone]
  rcases e.matcher.matchInSequence_or_lone hwf.grouped_ordered hline cwd position with
    hnone | ⟨l, lone, g, h, hl, hlone, hg, hh, hlg, hloneh, hclass⟩
  · exact Or.inl hnone
  · refine Or.inr ⟨l, lone, g.grammarClass, hl, hlone, ?_, ?_⟩
    · rw [hlg, hwf.classOf?_name (hwf.inOrder.mem_ordered.mp hg)]
    · rw [hloneh, hwf.classOf?_name (hwf.inOrder.mem_ordered.mp hh), hclass]

/-- **Selection.** A scan behind any lead agrees with what each line names alone. -/
theorem selects_scanFrom (hr : e.registry.Reachable) (henabled : e.config.enabled = true)
    (lead lines : List String) (cwd : Option String) (earlier : Nat) :
    e.Selects lines cwd earlier
      (e.matcher.scanFrom (lead ++ lines.map strip) lead.length cwd (earlier + 1)) := by
  refine ⟨?_, e.matcher.pairwise_position_scanFrom _ _ cwd _, ?_⟩
  · intro i line hline
    have hi : (lead ++ lines.map strip)[lead.length + i]? = some (strip line) := by
      rw [getElem?_lead_append, hline, Option.map_some]
    rcases matchInSequence_or_matchLine hr henabled hi cwd (earlier + 1 + i) with
      ⟨hnone, hlone⟩ | ⟨l, lone, c, hl, hlone, -, -⟩
    · rw [hlone]
      refine iff_of_false ?_ (by simp)
      rintro ⟨l, hl, hposition⟩
      -- a location at the position of the line can only have been found in it
      obtain ⟨j, hj⟩ := e.matcher.mem_scanFrom.mp hl
      have hij : j = i := by
        have := (e.matcher.eq_some_of_matchInSequence hj).2
        omega
      rw [hij, hnone] at hj
      cases hj
    · rw [hlone]
      refine iff_of_true ⟨l, e.matcher.mem_scanFrom.mpr ⟨i, hl⟩, ?_⟩ rfl
      rw [(e.matcher.eq_some_of_matchInSequence hl).2]
      omega
  · intro l hl
    obtain ⟨i, hi⟩ := e.matcher.mem_scanFrom.mp hl
    obtain ⟨hindex, hposition⟩ := e.matcher.eq_some_of_matchInSequence hi
    rw [List.length_append, List.length_map, Nat.add_lt_add_iff_left] at hindex
    have hline : lines[i]? = some lines[i] := List.getElem?_eq_getElem hindex
    have hseq : (lead ++ lines.map strip)[lead.length + i]? = some (strip lines[i]) := by
      rw [getElem?_lead_append, hline, Option.map_some]
    rcases matchInSequence_or_matchLine hr henabled hseq cwd (earlier + 1 + i) with
      ⟨hnone, -⟩ | ⟨l', lone, c, hl', hlone, hclass, hloneClass⟩
    · rw [hnone] at hi
      cases hi
    · rw [hl', Option.some.injEq] at hi
      subst hi
      exact ⟨i, lines[i], lone, c, by omega, hline, hlone, hclass, hloneClass⟩

/-- A scan of a buffer agrees with what each line names alone. -/
theorem selects_scan (hr : e.registry.Reachable) (lines : List String) (cwd : Option String)
    (stream : Option StreamId) : e.Selects lines cwd 0 (e.scan lines cwd stream).2 := by
  cases henabled : e.config.enabled with
  | false =>
    rw [e.scan_of_disabled cwd henabled]
    exact selects_nil_of_disabled henabled lines cwd 0
  | true =>
    rw [e.scan_snd cwd henabled]
    exact selects_scanFrom hr henabled [] lines cwd 0

/-- A scan of a chunk agrees with what each line names alone. -/
theorem selects_scanChunk (hr : e.registry.Reachable) {s : StreamId} {earlier : Nat}
    (hnext : (e.stateOf s).next = earlier + 1) (chunk : List String) (cwd : Option String) :
    e.Selects chunk cwd earlier (e.scanChunk s chunk cwd).2 := by
  cases henabled : e.config.enabled with
  | false =>
    rw [e.scanChunk_of_disabled s cwd henabled]
    exact selects_nil_of_disabled henabled chunk cwd earlier
  | true =>
    rw [e.scanChunk_snd s cwd henabled, hnext]
    exact selects_scanFrom hr henabled (e.lead s) chunk cwd earlier

/-- **Context only selects.** In every history, what a scan of a buffer reports agrees with what
each line names alone: the same lines are reported, each once and in order, with grammars of the
same classes. So does what the scan of a chunk reports, with positions that go on behind the lines
that were delivered to the stream before. -/
theorem context_only_selects {start : Engine} (hr : start.registry.Reachable)
    (history : List Action) :
    let e := (start.run history).1
    (∀ lines cwd stream, e.Selects lines cwd 0 (e.scan lines cwd stream).2) ∧
      ∀ s, start.streams.get? s = none → ∀ chunk cwd,
        e.Selects chunk cwd (start.delivered s [] history).length (e.scanChunk s chunk cwd).2 := by
  intro e
  have he : e.registry.Reachable := reachable_run hr history
  refine ⟨fun lines cwd stream => selects_scan he lines cwd stream, ?_⟩
  intro s hs chunk cwd
  have hstart : (start.stateOf s).next = ([] : List String).length + 1 := by
    rw [stateOf_of_get?_eq_none hs]
    rfl
  exact selects_scanChunk he (next_stateOf_run hstart history) chunk cwd

/-- A note in a chunk behind another one is reported for the position that it has in the stream, and
by the grammar whose cue stands in the earlier chunk. Alone it belongs to the other grammar. -/
theorem note_behind_chunk :
    let e := (notes.run [.scanChunk 4 ["", "two"] none]).1
    let found := (e.scanChunk 4 ["todo:8"] none).2
    let lone : Location := ⟨"first", "todo", "todo", 8, none, none, 1, "todo:8"⟩
    e.Selects ["todo:8"] none 2 found ∧ e.matchLine "todo:8" none = some lone ∧
      found = [{ lone with grammar := "second", position := 3 }] := by
  intro e found lone
  obtain ⟨-, hchunks⟩ := @context_only_selects notes Registry.reachable_notes
    [.scanChunk 4 ["", "two"] none]
  exact ⟨hchunks 4 rfl ["todo:8"] none, by decide +kernel, by decide +kernel⟩

end TraceScan.Engine
