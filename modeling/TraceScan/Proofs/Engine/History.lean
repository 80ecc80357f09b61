import TraceScan.Engine
import TraceScan.Proofs.LocationIndex
import TraceScan.Proofs.PositionMap
import TraceScan.Proofs.Registry.Reachable

/-!
# Histories of an engine

An engine is used by one action after the other. The module says what a scan and the delivery of a
chunk do, what an action leaves as it is that does not concern a stream, and what every history
keeps:

* `reachable_run`: the registry stays one that changes of an empty registry lead to;
* `next_stateOf_run`: the next position of a stream is one more than the number of lines that were
  delivered to it.
-/

namespace TraceScan.Engine

/-! ## Actions -/

/-- Something that is done with an engine. -/
inductive Action where
  | setUp (config : Config)
  | setEnabled (enabled : Bool)
  | changeRegistry (change : Registry.Change)
  | matchLine (line : String) (cwd : Option String)
  | scan (lines : List String) (cwd : Option String) (stream : Option StreamId)
  | scanChunk (stream : StreamId) (chunk : List String) (cwd : Option String)
  | resetStream (stream : StreamId)
  | clearAll

/-- The engine after an action, and the locations that the action returns. -/
def act (e : Engine) : Action → Engine × List Location
  | .setUp config => ((e.setUp config).1, [])
  | .setEnabled enabled => (e.setEnabled enabled, [])
  | .changeRegistry change => ({ e with registry := e.registry.apply change }, [])
  | .matchLine line cwd => (e, (e.matchLine line cwd).toList)
  | .scan lines cwd stream => e.scan lines cwd stream
  | .scanChunk stream chunk cwd => e.scanChunk stream chunk cwd
  | .resetStream stream => (e.resetStream stream, [])
  | .clearAll => (e.clearAll, [])

/-- The engine after a history of actions, and the locations that each of them returns. -/
def run (e : Engine) : List Action → Engine × List (List Location)
  | [] => (e, [])
  | action :: actions =>
    let rest := (e.act action).1.run actions
    (rest.1, (e.act action).2 :: rest.2)

/-- Every action of a history returns something. -/
theorem length_run (e : Engine) (history : List Action) :
    (e.run history).2.length = history.length := by
  induction history generalizing e with
  | nil => rfl
  | cons action history ih => exact congrArg (· + 1) (ih _)

/-- A history may be cut in two. -/
theorem run_append (e : Engine) (before after : List Action) :
    e.run (before ++ after) =
      (((e.run before).1.run after).1, (e.run before).2 ++ ((e.run before).1.run after).2) := by
  induction before generalizing e with
  | nil => rfl
  | cons action before ih =>
    rw [List.cons_append, run, ih]
    rfl

/-! ## Streams -/

/-- A stream without a state starts afresh. -/
theorem stateOf_of_get?_eq_none {e : Engine} {s : StreamId} (h : e.streams.get? s = none) :
    e.stateOf s = .fresh e.config.bufferSize := by
  rw [stateOf, h, Option.getD_none]

/-- The next position of a stream does not depend on the configuration. -/
theorem next_stateOf (e : Engine) (s : StreamId) :
    (e.stateOf s).next = ((e.streams.get? s).map StreamState.next).getD 1 := by
  rw [stateOf]
  cases e.streams.get? s <;> rfl

/-! ## Scans -/

section Scans

variable (e : Engine) (s : StreamId) (cwd : Option String)

/-- A scan by an engine that is switched off does nothing. -/
theorem scan_of_disabled (h : e.config.enabled = false) (lines : List String)
    (stream : Option StreamId) : e.scan lines cwd stream = (e, []) := by
  simp [scan, h]

/-- A scan of no lines does nothing. -/
theorem scan_nil (stream : Option StreamId) : e.scan [] cwd stream = (e, []) := by
  simp [scan]

/-- A scan without a stream changes nothing. -/
theorem scan_none_fst (lines : List String) : (e.scan lines cwd none).1 = e := by
  unfold scan
  split <;> rfl

/-- A scan for a stream replaces what is known of it. -/
theorem scan_some (h : e.config.enabled = true) {lines : List String} (hne : lines ≠ []) :
    e.scan lines cwd (some s) =
      let found := e.matcher.scanFrom (lines.map strip) 0 cwd 1
      let view := (StreamState.fresh e.config.bufferSize).view.extend (lines.map strip)
      ({ e with
          streams := e.streams.insert s ⟨lines.length + 1, view⟩
          index := e.index.storeAll s found }, found) := by
  have hempty : lines.isEmpty = false := by simpa using hne
  simp [scan, keepBuffer, h, hempty]

/-- A scan returns the locations in the visible text of its lines. -/
theorem scan_snd (h : e.config.enabled = true) (lines : List String)
    (stream : Option StreamId) :
    (e.scan lines cwd stream).2 = e.matcher.scanFrom (lines.map strip) 0 cwd 1 := by
  by_cases hne : lines = []
  · subst hne
    rw [scan_nil]
    rfl
  · have hempty : lines.isEmpty = false := by simpa using hne
    simp [scan, h, hempty]

/-- A chunk for an engine that is switched off is dropped. -/
theorem scanChunk_of_disabled (h : e.config.enabled = false) (chunk : List String) :
    e.scanChunk s chunk cwd = (e, []) := by
  simp [scanChunk, h]

/-- A chunk of no lines does nothing. -/
theorem scanChunk_nil : e.scanChunk s [] cwd = (e, []) := by
  simp [scanChunk]

/-- A chunk is scanned behind the last lines of its stream, and added to them. -/
theorem scanChunk_of_ne_nil (h : e.config.enabled = true) {chunk : List String}
    (hne : chunk ≠ []) :
    e.scanChunk s chunk cwd =
      let found := e.matcher.scanFrom (e.lead s ++ chunk.map strip) (e.lead s).length cwd
        (e.stateOf s).next
      let view := ((e.stateOf s).view.resize e.config.bufferSize).extend (chunk.map strip)
      ({ e with
          streams := e.streams.insert s ⟨(e.stateOf s).next + chunk.length, view⟩
          index := e.index.storeAll s found }, found) := by
  have hempty : chunk.isEmpty = false := by simpa using hne
  simp [scanChunk, keepChunk, h, hempty]

/-- A chunk returns the locations in its visible text, found behind the last lines of its
stream. -/
theorem scanChunk_snd (h : e.config.enabled = true) (chunk : List String) :
    (e.scanChunk s chunk cwd).2 =
      e.matcher.scanFrom (e.lead s ++ chunk.map strip) (e.lead s).length cwd
        (e.stateOf s).next := by
  by_cases hne : chunk = []
  · subst hne
    rw [scanChunk_nil]
    simp [Matcher.scanFrom]
  · rw [e.scanChunk_of_ne_nil s cwd h hne]

/-- A scan for a stream stores what it returns. -/
theorem index_scan (lines : List String) :
    (e.scan lines cwd (some s)).1.index = e.index.storeAll s (e.scan lines cwd (some s)).2 := by
  cases henabled : e.config.enabled with
  | false =>
    rw [e.scan_of_disabled cwd henabled]
    rfl
  | true =>
    by_cases hne : lines = []
    · rw [hne, scan_nil]
      rfl
    · rw [e.scan_some s cwd henabled hne]

/-- A chunk stores what it returns. -/
theorem index_scanChunk (chunk : List String) :
    (e.scanChunk s chunk cwd).1.index = e.index.storeAll s (e.scanChunk s chunk cwd).2 := by
  cases henabled : e.config.enabled with
  | false =>
    rw [e.scanChunk_of_disabled s cwd henabled]
    rfl
  | true =>
    by_cases hne : chunk = []
    · rw [hne, scanChunk_nil]
      rfl
    · rw [e.scanChunk_of_ne_nil s cwd henabled hne]

/-- A scan touches the stream that it is for. -/
theorem get?_streams_scan (lines : List String) (stream : Option StreamId) :
    (e.scan lines cwd stream).1.streams.get? s =
      if e.config.enabled ∧ stream = some s ∧ lines ≠ [] then
        some ⟨lines.length + 1,
          (StreamState.fresh e.config.bufferSize).view.extend (lines.map strip)⟩
      else e.streams.get? s := by
  cases henabled : e.config.enabled with
  | false => rw [e.scan_of_disabled cwd henabled, if_neg (by simp)]
  | true =>
    by_cases hne : lines = []
    · rw [hne, scan_nil, if_neg (by simp)]
    · cases stream with
      | none => rw [scan_none_fst, if_neg (by simp)]
      | some s' =>
        rw [e.scan_some s' cwd henabled hne, PositionMap.get?_insert]
        by_cases hs : s' = s
        · rw [if_pos hs.symm, if_pos ⟨rfl, congrArg some hs, hne⟩]
        · rw [if_neg (Ne.symm hs), if_neg (by simp [hs])]

/-- A chunk touches the stream that it is delivered to. -/
theorem get?_streams_scanChunk (stream : StreamId) (chunk : List String) :
    (e.scanChunk stream chunk cwd).1.streams.get? s =
      if e.config.enabled ∧ stream = s ∧ chunk ≠ [] then
        some ⟨(e.stateOf s).next + chunk.length,
          ((e.stateOf s).view.resize e.config.bufferSize).extend (chunk.map strip)⟩
      else e.streams.get? s := by
  cases henabled : e.config.enabled with
  | false => rw [e.scanChunk_of_disabled stream cwd henabled, if_neg (by simp)]
  | true =>
    by_cases hne : chunk = []
    · rw [hne, scanChunk_nil, if_neg (by simp)]
    · rw [e.scanChunk_of_ne_nil stream cwd henabled hne, PositionMap.get?_insert]
      by_cases hs : stream = s
      · subst hs
        rw [if_pos rfl, if_pos ⟨rfl, rfl, hne⟩]
      · rw [if_neg (Ne.symm hs), if_neg (by simp [hs])]

/-- A chunk moves the next position of its stream past its lines. -/
theorem next_stateOf_scanChunk (stream : StreamId) (chunk : List String) :
    ((e.scanChunk stream chunk cwd).1.stateOf s).next =
      (e.stateOf s).next + if e.config.enabled ∧ stream = s then chunk.length else 0 := by
  rw [next_stateOf, get?_streams_scanChunk]
  by_cases hcond : e.config.enabled = true ∧ stream = s
  · rw [if_pos hcond]
    -- an empty chunk leaves the stream without a state, if it had none
    by_cases hne : chunk = []
    · rw [if_neg (by simp [hne]), hne, List.length_nil, Nat.add_zero, next_stateOf]
    · rw [if_pos ⟨hcond.1, hcond.2, hne⟩, Option.map_some, Option.getD_some]
  · rw [if_neg hcond, if_neg (by tauto), Nat.add_zero, next_stateOf]

end Scans

/-! ## What stays -/

/-- A scan changes nothing but the streams and the index. -/
theorem scan_fst (e : Engine) (lines : List String) (cwd : Option String)
    (stream : Option StreamId) :
    ∃ streams index, (e.scan lines cwd stream).1 =
      { e with streams := streams, index := index } := by
  unfold scan
  split
  · exact ⟨e.streams, e.index, rfl⟩
  · cases stream with
    | none => exact ⟨e.streams, e.index, rfl⟩
    | some s => exact ⟨_, _, rfl⟩

/-- A chunk changes nothing but the streams and the index. -/
theorem scanChunk_fst (e : Engine) (s : StreamId) (chunk : List String) (cwd : Option String) :
    ∃ streams index, (e.scanChunk s chunk cwd).1 =
      { e with streams := streams, index := index } := by
  unfold scanChunk
  split
  · exact ⟨e.streams, e.index, rfl⟩
  · exact ⟨_, _, rfl⟩

/-- A chunk leaves the registry as it is. -/
theorem registry_scanChunk (e : Engine) (s : StreamId) (chunk : List String)
    (cwd : Option String) : (e.scanChunk s chunk cwd).1.registry = e.registry := by
  obtain ⟨streams, index, hfst⟩ := e.scanChunk_fst s chunk cwd
  rw [hfst]

/-- Every action keeps the registry reachable. -/
theorem reachable_act {e : Engine} (h : e.registry.Reachable) (action : Action) :
    (e.act action).1.registry.Reachable := by
  cases action with
  | setUp config => exact .step (.setUp config) h
  | setEnabled enabled => exact h
  | changeRegistry change => exact .step change h
  | matchLine line cwd => exact h
  | scan lines cwd stream =>
    obtain ⟨streams, index, heq⟩ := e.scan_fst lines cwd stream
    rw [act, heq]
    exact h
  | scanChunk s chunk cwd =>
    rw [act, registry_scanChunk]
    exact h
  | resetStream s => exact h
  | clearAll => exact h

/-- **Registries.** Every history keeps the registry reachable. -/
theorem reachable_run {e : Engine} (h : e.registry.Reachable) (history : List Action) :
    (e.run history).1.registry.Reachable := by
  induction history generalizing e with
  | nil => exact h
  | cons action history ih => exact ih (reachable_act h action)

/-! ## Actions and streams -/

/-- Whether an action concerns a stream. What is done to another stream does not, and neither does
the scan of a buffer for no stream. -/
def Action.concerns (s : StreamId) : Action → Bool
  | .scan _ _ stream => stream == some s
  | .scanChunk stream _ _ => stream == s
  | .resetStream stream => stream == s
  | .setUp _ | .setEnabled _ | .changeRegistry _ | .matchLine _ _ | .clearAll => true

section Unconcerned

variable (e : Engine) {s : StreamId} {action : Action}

/-- An action that does not concern a stream leaves its state as it is. -/
theorem get?_streams_act (h : action.concerns s = false) :
    (e.act action).1.streams.get? s = e.streams.get? s := by
  cases action with
  | scan lines cwd stream =>
    have hne : stream ≠ some s := by simpa [Action.concerns] using h
    rw [act, get?_streams_scan, if_neg (by simp [hne])]
  | scanChunk stream chunk cwd =>
    have hne : stream ≠ s := by simpa [Action.concerns] using h
    rw [act, get?_streams_scanChunk, if_neg (by simp [hne])]
  | resetStream stream =>
    have hne : stream ≠ s := by simpa [Action.concerns] using h
    show (e.streams.erase stream).get? s = e.streams.get? s
    rw [PositionMap.get?_erase, if_neg hne.symm]
  | setUp config => cases h
  | setEnabled enabled => cases h
  | changeRegistry change => cases h
  | matchLine line cwd => cases h
  | clearAll => cases h

/-- An action that does not concern a stream leaves its entries as they are. -/
theorem stream_index_act (h : action.concerns s = false) :
    (e.act action).1.index.stream s = e.index.stream s := by
  cases action with
  | scan lines cwd stream =>
    have hne : stream ≠ some s := by simpa [Action.concerns] using h
    cases stream with
    | none => rw [act, scan_none_fst]
    | some t =>
      have hst : s ≠ t := fun hst => hne (congrArg some hst.symm)
      rw [act, index_scan, LocationIndex.stream_storeAll_of_ne hst]
  | scanChunk stream chunk cwd =>
    have hne : stream ≠ s := by simpa [Action.concerns] using h
    rw [act, index_scanChunk, LocationIndex.stream_storeAll_of_ne hne.symm]
  | resetStream stream =>
    have hne : stream ≠ s := by simpa [Action.concerns] using h
    show (e.index.clear stream).stream s = e.index.stream s
    rw [LocationIndex.stream_clear, if_neg hne.symm]
  | setUp config => cases h
  | setEnabled enabled => cases h
  | changeRegistry change => cases h
  | matchLine line cwd => cases h
  | clearAll => cases h

end Unconcerned

/-! ## Deliveries -/

/-- The lines that were delivered to a stream when an action is done, from those that were delivered
before it. An engine that is switched off takes no lines. -/
def Action.deliver (s : StreamId) (enabled : Bool) (lines : List String) : Action → List String
  | .scan buffer _ stream =>
    if enabled ∧ stream = some s ∧ buffer ≠ [] then buffer else lines
  | .scanChunk stream chunk _ => if enabled ∧ stream = s then lines ++ chunk else lines
  | .resetStream stream => if stream = s then [] else lines
  | .clearAll => []
  | _ => lines

/-- An action that does not concern a stream delivers nothing to it. -/
theorem Action.deliver_of_concerns_eq_false {s : StreamId} {action : Action}
    (h : action.concerns s = false) (enabled : Bool) (lines : List String) :
    action.deliver s enabled lines = lines := by
  cases action with
  | scan buffer cwd stream =>
    have hne : stream ≠ some s := by simpa [concerns] using h
    rw [deliver, if_neg (by simp [hne])]
  | scanChunk stream chunk cwd =>
    have hne : stream ≠ s := by simpa [concerns] using h
    rw [deliver, if_neg (by simp [hne])]
  | resetStream stream =>
    have hne : stream ≠ s := by simpa [concerns] using h
    rw [deliver, if_neg hne]
  | setUp config => cases h
  | setEnabled enabled => cases h
  | changeRegistry change => cases h
  | matchLine line cwd => cases h
  | clearAll => cases h

/-- The lines that were delivered to a stream when a history is over, since it was last
forgotten. -/
def delivered (e : Engine) (s : StreamId) (lines : List String) : List Action → List String
  | [] => lines
  | action :: actions =>
    (e.act action).1.delivered s (action.deliver s e.config.enabled lines) actions

/-- An action moves the next position of a stream past the lines that it delivers. -/
theorem next_stateOf_act {e : Engine} {s : StreamId} {lines : List String}
    (h : (e.stateOf s).next = lines.length + 1) (action : Action) :
    ((e.act action).1.stateOf s).next =
      (action.deliver s e.config.enabled lines).length + 1 := by
  rw [next_stateOf] at h ⊢
  cases action with
  | setUp config => exact h
  | setEnabled enabled => exact h
  | changeRegistry change => exact h
  | matchLine line cwd => exact h
  | scan buffer cwd stream =>
    rw [act, Action.deliver, get?_streams_scan]
    split
    · rfl
    · exact h
  | scanChunk stream chunk cwd =>
    rw [← next_stateOf, act, Action.deliver, next_stateOf_scanChunk, next_stateOf, h]
    by_cases hcond : e.config.enabled = true ∧ stream = s
    · rw [if_pos hcond, if_pos hcond, List.length_append]
      omega
    · rw [if_neg hcond, if_neg hcond, Nat.add_zero]
  | resetStream stream =>
    rw [act, Action.deliver, resetStream]
    simp only [PositionMap.get?_erase]
    by_cases hs : stream = s
    · rw [if_pos hs, if_pos hs.symm]
      rfl
    · rw [if_neg hs, if_neg (Ne.symm hs)]
      exact h
  | clearAll => rfl

/-- **Positions.** After every history the next position of a stream is one more than the number of
lines that were delivered to it. -/
theorem next_stateOf_run {e : Engine} {s : StreamId} {lines : List String}
    (h : (e.stateOf s).next = lines.length + 1) (history : List Action) :
    ((e.run history).1.stateOf s).next = (e.delivered s lines history).length + 1 := by
  induction history generalizing e lines with
  | nil => exact h
  | cons action history ih => exact ih (next_stateOf_act h action)

/-! ## An engine for notes -/

/-- An engine that finds notes and keeps one line of each stream. -/
def notes : Engine where
  home := some "/home"
  config := { bufferSize := 1, contextWindow := 1 }
  registry := Registry.notes

end TraceScan.Engine
