import TraceScan.Proofs.Engine.Selection
import TraceScan.Proofs.LocationIndex
import TraceScan.Proofs.RollingView

/-!
# What the capacity of the views can change

The last lines that a view keeps are context for the next chunk. A capacity below the width of the
context window therefore cuts that context short, and another grammar may win. Nothing else comes of
the capacity: `capacity_only_selects` compares two engines that differ in nothing but it. They find
and store the same lines with grammars of the same classes, and the same locations behind the first
lines of each chunk; where both capacities reach as far as the window, they find and store the same
locations altogether.
-/

namespace TraceScan

/-! ## The same lines -/

/-- Two locations stand for the same line of output and were found by one grammar or by registered
grammars of one class. -/
structure Registry.SameLine (r : Registry) (l k : Location) : Prop where
  position : l.position = k.position
  text : l.text = k.text
  grammar : l.grammar = k.grammar ∨
    ∃ c, r.classOf? l.grammar = some c ∧ r.classOf? k.grammar = some c

/-- A location stands for the line that it stands for. -/
theorem Registry.SameLine.refl (r : Registry) (l : Location) : r.SameLine l l :=
  ⟨rfl, rfl, Or.inl rfl⟩

/-- Functions with related results give related lists. -/
theorem forall₂_filterMap {α β : Type} {R : β → β → Prop} {f g : α → Option β} {l : List α}
    (h : ∀ a ∈ l, Option.Rel R (f a) (g a)) : List.Forall₂ R (l.filterMap f) (l.filterMap g) := by
  induction l with
  | nil => exact .nil
  | cons a l ih =>
    have hrest := ih fun b hb => h b (List.mem_cons_of_mem a hb)
    have ha := h a List.mem_cons_self
    rw [List.filterMap_cons, List.filterMap_cons]
    generalize f a = x at ha
    generalize g a = y at ha
    cases ha with
    | none => exact hrest
    | some hxy => exact .cons hxy hrest

namespace Engine

/-- A line that stands in two sequences is found in both or in none, by grammars of one class. -/
theorem sameLine_matchInSequence {e : Engine} (hr : e.registry.Reachable)
    (henabled : e.config.enabled = true) {lines lines' : List String} {index index' : Nat}
    {raw : String} (hline : lines[index]? = some (strip raw))
    (hline' : lines'[index']? = some (strip raw)) (cwd : Option String) (position : Nat) :
    Option.Rel e.registry.SameLine (e.matcher.matchInSequence lines index cwd position)
      (e.matcher.matchInSequence lines' index' cwd position) := by
  -- both findings are compared with what the line names alone
  rcases matchInSequence_or_matchLine hr henabled hline cwd position with
    ⟨hl, hnone⟩ | ⟨l, lone, c, hl, hlone, hclass, hloneClass⟩
  · rcases matchInSequence_or_matchLine hr henabled hline' cwd position with
      ⟨hk, -⟩ | ⟨k, lone', c', -, hlone', -, -⟩
    · rw [hl, hk]
      exact .none
    · rw [hnone] at hlone'
      cases hlone'
  · rcases matchInSequence_or_matchLine hr henabled hline' cwd position with
      ⟨-, hnone⟩ | ⟨k, lone', c', hk, hlone', hclass', hloneClass'⟩
    · rw [hnone] at hlone
      cases hlone
    · rw [hlone, Option.some.injEq] at hlone'
      subst lone'
      have hposition : l.position = k.position :=
        (e.matcher.eq_some_of_matchInSequence hl).2.trans
          (e.matcher.eq_some_of_matchInSequence hk).2.symm
      have htext : some l.text = some k.text := by
        rw [← e.matcher.text_of_matchInSequence hl, ← e.matcher.text_of_matchInSequence hk, hline,
          hline']
      have hsame : c' = c := by
        rw [← Option.some.injEq, ← hloneClass', hloneClass]
      rw [hl, hk]
      exact .some ⟨hposition, Option.some.inj htext, Or.inr ⟨c, hclass, hsame ▸ hclass'⟩⟩

/-- Behind whatever lines, the same lines are found by grammars of the same classes. -/
theorem sameLine_scanFrom {e : Engine} (hr : e.registry.Reachable)
    (henabled : e.config.enabled = true) (lead lead' lines : List String) (cwd : Option String)
    (first : Nat) :
    List.Forall₂ e.registry.SameLine
      (e.matcher.scanFrom (lead ++ lines.map strip) lead.length cwd first)
      (e.matcher.scanFrom (lead' ++ lines.map strip) lead'.length cwd first) := by
  have hlength : ∀ before : List String,
      (before ++ lines.map strip).length - before.length = lines.length := by
    intro before
    rw [List.length_append, List.length_map, Nat.add_sub_cancel_left]
  rw [Matcher.scanFrom, Matcher.scanFrom, hlength, hlength]
  apply forall₂_filterMap
  intro i hi
  rw [List.mem_range] at hi
  have hline : ∀ before : List String,
      (before ++ lines.map strip)[before.length + i]? = some (strip lines[i]) := by
    intro before
    rw [getElem?_lead_append, List.getElem?_eq_getElem hi, Option.map_some]
  exact sameLine_matchInSequence hr henabled (hline lead) (hline lead') cwd (first + i)

/-! ## Engines side by side -/

/-- Two engines match alike and count alike. -/
structure Abreast (a b : Engine) : Prop where
  enabled : a.config.enabled = b.config.enabled
  matcher : a.matcher = b.matcher
  next : ∀ s, (a.stateOf s).next = (b.stateOf s).next

/-- Two engines match and count alike and hold locations of the same lines. -/
structure Alike (a b : Engine) : Prop extends Abreast a b where
  index : ∀ s p, Option.Rel a.registry.SameLine (a.index.get? s p) (b.index.get? s p)

/-- Two engines match and count alike, see the same lines before the next chunk of each stream, and
hold the same locations. Both keep the lines that they will see. -/
structure InStep (a b : Engine) : Prop extends Abreast a b where
  lead : ∀ s, a.lead s = b.lead s
  index : a.index = b.index
  left_reaches : a.config.contextWindow ≤ a.config.bufferSize
  right_reaches : b.config.contextWindow ≤ b.config.bufferSize

variable {a b e : Engine}

/-- After a chunk, its stream leads with the last of the lines that it led with before and of the
chunk, if the capacity reaches as far as the window. -/
theorem lead_scanChunk (hreach : e.config.contextWindow ≤ e.config.bufferSize) (s t : StreamId)
    (chunk : List String) (cwd : Option String) :
    (e.scanChunk s chunk cwd).1.lead t =
      if e.config.enabled ∧ s = t ∧ chunk ≠ [] then
        (e.lead t ++ chunk.map strip).drop
          ((e.lead t ++ chunk.map strip).length - e.config.contextWindow)
      else e.lead t := by
  obtain ⟨streams, index, hfst⟩ := e.scanChunk_fst s chunk cwd
  have hget := e.get?_streams_scanChunk t cwd s chunk
  rw [hfst] at hget ⊢
  simp only at hget
  rw [lead, stateOf, hget]
  split
  · exact RollingView.tail_extend_resize (e.stateOf t).view hreach (chunk.map strip)
  · rfl

/-- A chunk leaves two engines abreast. -/
theorem Abreast.scanChunk (h : Abreast a b) (s : StreamId) (chunk : List String)
    (cwd : Option String) :
    Abreast (a.scanChunk s chunk cwd).1 (b.scanChunk s chunk cwd).1 := by
  have hnext : ∀ t, ((a.scanChunk s chunk cwd).1.stateOf t).next =
      ((b.scanChunk s chunk cwd).1.stateOf t).next := by
    intro t
    rw [next_stateOf_scanChunk, next_stateOf_scanChunk, h.next, h.enabled]
  obtain ⟨streams, index, hleft⟩ := a.scanChunk_fst s chunk cwd
  obtain ⟨streams', index', hright⟩ := b.scanChunk_fst s chunk cwd
  rw [hleft, hright] at hnext ⊢
  exact ⟨h.enabled, h.matcher, hnext⟩

/-- **Selection.** Two engines that are abreast find the same lines in a chunk. -/
theorem Abreast.sameLine (h : Abreast a b) (hr : a.registry.Reachable) (s : StreamId)
    (chunk : List String) (cwd : Option String) :
    List.Forall₂ a.registry.SameLine (a.scanChunk s chunk cwd).2 (b.scanChunk s chunk cwd).2 := by
  cases henabled : a.config.enabled with
  | false =>
    rw [a.scanChunk_of_disabled s cwd henabled,
      b.scanChunk_of_disabled s cwd (h.enabled ▸ henabled)]
    exact .nil
  | true =>
    rw [a.scanChunk_snd s cwd henabled, b.scanChunk_snd s cwd (h.enabled ▸ henabled), ← h.matcher,
      ← h.next]
    exact sameLine_scanFrom hr henabled _ _ chunk cwd _

/-- The lines that a stream leads with are no more than the window is wide. -/
theorem length_lead_le (e : Engine) (s : StreamId) :
    (e.lead s).length ≤ e.config.contextWindow := by
  rw [lead, RollingView.tail, List.length_drop, RollingView.size]
  omega

/-- What a chunk gives behind its first lines, as many as the window is wide, does not depend on
earlier chunks. -/
theorem filter_scanChunk (henabled : e.config.enabled = true) (s : StreamId)
    {chunk : List String}
    (hsize : chunk.length + 2 * e.config.contextWindow ≤ UInt64.size) (cwd : Option String) :
    (e.scanChunk s chunk cwd).2.filter
        (fun l => (e.stateOf s).next + e.config.contextWindow ≤ l.position) =
      e.matcher.scanFrom (chunk.map strip) e.config.contextWindow cwd
        ((e.stateOf s).next + e.config.contextWindow) := by
  have hlead := e.length_lead_le s
  have hlines : (e.lead s ++ chunk.map strip).length + e.matcher.window ≤ UInt64.size := by
    show (e.lead s ++ chunk.map strip).length + e.config.contextWindow ≤ UInt64.size
    rw [List.length_append, List.length_map]
    omega
  have hcut : (e.lead s).length ≤
      (e.lead s).length + e.config.contextWindow - e.matcher.window := by
    show (e.lead s).length ≤ (e.lead s).length + e.config.contextWindow - e.config.contextWindow
    omega
  -- the windows of these lines do not reach into the lead, which may be dropped
  have hdrop := e.matcher.scanFrom_drop hcut hlines cwd
    ((e.stateOf s).next + e.config.contextWindow)
  rw [List.drop_left, Nat.add_sub_cancel_left] at hdrop
  rw [e.scanChunk_snd s cwd henabled, Matcher.filter_le_scanFrom, hdrop]

/-- **Reach.** Two engines that are abreast find the same locations behind the first lines of a
chunk, as many as the window is wide. -/
theorem Abreast.filter_eq (h : Abreast a b) (s : StreamId) {chunk : List String}
    (hsize : chunk.length + 2 * a.config.contextWindow ≤ UInt64.size) (cwd : Option String) :
    (a.scanChunk s chunk cwd).2.filter
        (fun l => (a.stateOf s).next + a.config.contextWindow ≤ l.position) =
      (b.scanChunk s chunk cwd).2.filter
        (fun l => (a.stateOf s).next + a.config.contextWindow ≤ l.position) := by
  cases henabled : a.config.enabled with
  | false =>
    rw [a.scanChunk_of_disabled s cwd henabled,
      b.scanChunk_of_disabled s cwd (h.enabled ▸ henabled)]
  | true =>
    have hwindow : a.config.contextWindow = b.config.contextWindow :=
      congrArg Matcher.window h.matcher
    rw [a.filter_scanChunk henabled s hsize cwd, h.next, hwindow, h.matcher,
      b.filter_scanChunk (h.enabled ▸ henabled) s (hwindow ▸ hsize) cwd]

/-- A chunk leaves two engines alike. -/
theorem Alike.scanChunk (h : Alike a b) (hr : a.registry.Reachable) (s : StreamId)
    (chunk : List String) (cwd : Option String) :
    Alike (a.scanChunk s chunk cwd).1 (b.scanChunk s chunk cwd).1 := by
  refine ⟨h.toAbreast.scanChunk s chunk cwd, ?_⟩
  intro t p
  rw [registry_scanChunk, index_scanChunk, index_scanChunk]
  exact LocationIndex.rel_get?_storeAll (fun l k hlk => hlk.position) (h.sameLine hr s chunk cwd)
    h.index s t p

/-- Two engines that are in step find the same locations in a chunk. -/
theorem InStep.snd_eq (h : InStep a b) (s : StreamId) (chunk : List String)
    (cwd : Option String) : (a.scanChunk s chunk cwd).2 = (b.scanChunk s chunk cwd).2 := by
  cases henabled : a.config.enabled with
  | false =>
    rw [a.scanChunk_of_disabled s cwd henabled,
      b.scanChunk_of_disabled s cwd (h.enabled ▸ henabled)]
  | true =>
    rw [a.scanChunk_snd s cwd henabled, b.scanChunk_snd s cwd (h.enabled ▸ henabled), h.matcher,
      h.next, h.lead]

/-- A chunk leaves two engines in step. -/
theorem InStep.scanChunk (h : InStep a b) (s : StreamId) (chunk : List String)
    (cwd : Option String) :
    InStep (a.scanChunk s chunk cwd).1 (b.scanChunk s chunk cwd).1 := by
  have hwindow : a.config.contextWindow = b.config.contextWindow :=
    congrArg Matcher.window h.matcher
  -- both leads follow from the leads before, because both capacities reach as far as the window
  have hlead : ∀ t, (a.scanChunk s chunk cwd).1.lead t = (b.scanChunk s chunk cwd).1.lead t := by
    intro t
    rw [lead_scanChunk h.left_reaches, lead_scanChunk h.right_reaches, h.enabled, h.lead, hwindow]
  have hindex : (a.scanChunk s chunk cwd).1.index = (b.scanChunk s chunk cwd).1.index := by
    rw [index_scanChunk, index_scanChunk, h.index, h.snd_eq]
  have habreast := h.toAbreast.scanChunk s chunk cwd
  obtain ⟨streams, index, hleft⟩ := a.scanChunk_fst s chunk cwd
  obtain ⟨streams', index', hright⟩ := b.scanChunk_fst s chunk cwd
  rw [hleft, hright] at habreast hlead hindex ⊢
  exact ⟨habreast, hlead, hindex, h.left_reaches, h.right_reaches⟩

/-! ## Deliveries -/

/-- Chunks that are delivered one after the other, each to a stream. -/
def deliveries (chunks : List (StreamId × List String × Option String)) : List Action :=
  chunks.map fun c => .scanChunk c.1 c.2.1 c.2.2

/-- Deliveries change nothing but the streams and the index. -/
theorem run_deliveries_fst (e : Engine) (chunks : List (StreamId × List String × Option String)) :
    ∃ streams index, (e.run (deliveries chunks)).1 =
      { e with streams := streams, index := index } := by
  induction chunks generalizing e with
  | nil => exact ⟨e.streams, e.index, rfl⟩
  | cons c chunks ih =>
    obtain ⟨streams, index, hrun⟩ := ih (e.scanChunk c.1 c.2.1 c.2.2).1
    obtain ⟨_, _, hfst⟩ := e.scanChunk_fst c.1 c.2.1 c.2.2
    refine ⟨streams, index, ?_⟩
    rw [hfst] at hrun
    show ((e.scanChunk c.1 c.2.1 c.2.2).1.run (deliveries chunks)).1 = _
    rw [hfst, hrun]

/-- Deliveries leave two engines alike, and each chunk gives the same lines. -/
theorem Alike.run (h : Alike a b) (hr : a.registry.Reachable)
    (chunks : List (StreamId × List String × Option String)) :
    Alike (a.run (deliveries chunks)).1 (b.run (deliveries chunks)).1 ∧
      List.Forall₂ (List.Forall₂ a.registry.SameLine) (a.run (deliveries chunks)).2
        (b.run (deliveries chunks)).2 := by
  -- on the chunks, for all engines that are alike
  induction chunks generalizing a b with
  | nil => exact ⟨h, .nil⟩
  | cons c chunks ih =>
    obtain ⟨s, chunk, cwd⟩ := c
    have hregistry := a.registry_scanChunk s chunk cwd
    have hrest := ih (h.scanChunk hr s chunk cwd) (hregistry ▸ hr)
    rw [hregistry] at hrest
    exact ⟨hrest.1, .cons (h.sameLine hr s chunk cwd) hrest.2⟩

/-- Deliveries leave two engines in step, and each chunk gives the same locations. -/
theorem InStep.run (h : InStep a b) (chunks : List (StreamId × List String × Option String)) :
    InStep (a.run (deliveries chunks)).1 (b.run (deliveries chunks)).1 ∧
      (a.run (deliveries chunks)).2 = (b.run (deliveries chunks)).2 := by
  induction chunks generalizing a b with
  | nil => exact ⟨h, rfl⟩
  | cons c chunks ih =>
    obtain ⟨s, chunk, cwd⟩ := c
    have hrest := ih (h.scanChunk s chunk cwd)
    exact ⟨hrest.1, congrArg₂ List.cons (h.snd_eq s chunk cwd) hrest.2⟩

/-! ## Engines of different capacities -/

/-- The engine with another capacity of its views. -/
def withCapacity (e : Engine) (capacity : Nat) : Engine :=
  { e with config := { e.config with bufferSize := capacity } }

/-- The capacity makes no difference to what a stream leads with. -/
theorem lead_withCapacity (e : Engine) (capacity : Nat) (s : StreamId) :
    (e.withCapacity capacity).lead s = e.lead s := by
  show ((e.streams.get? s).getD (.fresh capacity)).view.tail e.config.contextWindow =
    ((e.streams.get? s).getD (.fresh e.config.bufferSize)).view.tail e.config.contextWindow
  cases e.streams.get? s with
  | none => rw [Option.getD_none, Option.getD_none]; rfl
  | some state => rfl

/-- Engines that differ in their capacities are abreast. -/
theorem abreast_withCapacity (e : Engine) (c d : Nat) :
    Abreast (e.withCapacity c) (e.withCapacity d) :=
  ⟨rfl, rfl, fun s => by rw [next_stateOf, next_stateOf]; rfl⟩

/-- Engines that differ in their capacities are alike. -/
theorem alike_withCapacity (e : Engine) (c d : Nat) :
    Alike (e.withCapacity c) (e.withCapacity d) := by
  refine ⟨e.abreast_withCapacity c d, ?_⟩
  intro s p
  show Option.Rel e.registry.SameLine (e.index.get? s p) (e.index.get? s p)
  cases e.index.get? s p with
  | none => exact .none
  | some l => exact .some (.refl e.registry l)

/-- **The capacity only selects.** Two engines that differ in nothing but the capacity of their
views find the same lines in every sequence of chunks, chunk by chunk and in order, by grammars of
the same classes, and store them at the same positions. In every further chunk they find the same
locations from the line on that has as many lines of the chunk before it as the window is wide. If
both capacities reach as far as the window, they find the same locations in all chunks and end with
the same index. -/
theorem capacity_only_selects {e : Engine} (hr : e.registry.Reachable) (c d : Nat)
    (chunks : List (StreamId × List String × Option String)) :
    let left := (e.withCapacity c).run (deliveries chunks)
    let right := (e.withCapacity d).run (deliveries chunks)
    let window := e.config.contextWindow
    (List.Forall₂ (List.Forall₂ e.registry.SameLine) left.2 right.2 ∧
      ∀ s p, Option.Rel e.registry.SameLine (left.1.index.get? s p) (right.1.index.get? s p)) ∧
    (∀ s chunk cwd, chunk.length + 2 * window ≤ UInt64.size →
      (left.1.scanChunk s chunk cwd).2.filter
          (fun l => (left.1.stateOf s).next + window ≤ l.position) =
        (right.1.scanChunk s chunk cwd).2.filter
          (fun l => (left.1.stateOf s).next + window ≤ l.position)) ∧
    (window ≤ c → window ≤ d → left.2 = right.2 ∧ left.1.index = right.1.index) := by
  intro left right window
  obtain ⟨halike, hsame⟩ := (e.alike_withCapacity c d).run hr chunks
  obtain ⟨streams, index, hleft⟩ := (e.withCapacity c).run_deliveries_fst chunks
  have hregistry : left.1.registry = e.registry := by
    show ((e.withCapacity c).run (deliveries chunks)).1.registry = e.registry
    rw [hleft, withCapacity]
  have hwindow : left.1.config.contextWindow = window := by
    show ((e.withCapacity c).run (deliveries chunks)).1.config.contextWindow = window
    rw [hleft, withCapacity]
  refine ⟨⟨hsame, ?_⟩, ?_, ?_⟩
  · intro s p
    rw [← hregistry]
    exact halike.index s p
  · intro s chunk cwd hsize
    rw [← hwindow] at hsize ⊢
    exact halike.toAbreast.filter_eq s hsize cwd
  · intro hc hd
    have hlead : ∀ s, (e.withCapacity c).lead s = (e.withCapacity d).lead s := by
      intro s
      rw [lead_withCapacity, lead_withCapacity]
    have hstart : InStep (e.withCapacity c) (e.withCapacity d) :=
      ⟨e.abreast_withCapacity c d, hlead, rfl, hc, hd⟩
    obtain ⟨hend, hfound⟩ := hstart.run chunks
    exact ⟨hfound, hend.index⟩

/-- Two capacities that reach as far as the window find the same note behind its cue. -/
theorem note_behind_cue_in_step :
    let chunks := [(4, ["two"], none), (4, ["todo:8"], none)]
    let found := fun capacity => ((notes.withCapacity capacity).run (deliveries chunks)).2
    found 1 = found 1000 ∧
      (found 1).map (·.map fun l => (l.grammar, l.position)) = [[], [("second", 2)]] :=
  ⟨((capacity_only_selects Registry.reachable_notes 1 1000
      [(4, ["two"], none), (4, ["todo:8"], none)]).2.2 (by decide) (by decide)).1,
    by decide +kernel⟩

/-- A capacity that does not reach as far as the window loses the cue of a note: another grammar
wins, and its location is stored. -/
theorem small_capacity_loses_cue :
    let chunks := [(4, ["two"], none), (4, ["todo:8"], none)]
    let left := (notes.withCapacity 0).run (deliveries chunks)
    let right := (notes.withCapacity 1).run (deliveries chunks)
    left.2 ≠ right.2 ∧ left.1.index ≠ right.1.index ∧
      left.2.map (·.map Location.grammar) = [[], ["first"]] ∧
      right.2.map (·.map Location.grammar) = [[], ["second"]] ∧
      (left.1.index.get? 4 2).map Location.grammar = some "first" ∧
      (right.1.index.get? 4 2).map Location.grammar = some "second" := by
  decide +kernel

end Engine

end TraceScan
