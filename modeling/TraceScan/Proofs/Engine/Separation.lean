import TraceScan.Proofs.Engine.SetUp

/-!
# Streams do not interfere

What is done to one stream makes no difference to another: of every history, the actions that do not
concern a stream may be left out, and the others return what they returned and leave the stream as
they left it. This is `streams_do_not_interfere`. It rests on two facts about single actions: an
action that does not concern a stream leaves the engine as it was, as far as the stream goes
(`agree_act`), and any other action does the same to two engines that agree on the stream
(`Agree.act`).
-/

namespace TraceScan

/-! ## Interleavings -/

/-- The third list holds the elements of the first two, each in their order. -/
inductive Interleaving {α : Type} : List α → List α → List α → Prop
  | nil : Interleaving [] [] []
  | left {a : α} {l r m : List α} : Interleaving l r m → Interleaving (a :: l) r (a :: m)
  | right {a : α} {l r m : List α} : Interleaving l r m → Interleaving l (a :: r) (a :: m)

namespace Interleaving

variable {α : Type} {l r m : List α}

/-- The two lists may change places. -/
theorem symm (h : Interleaving l r m) : Interleaving r l m := by
  induction h with
  | nil => exact .nil
  | left _ ih => exact .right ih
  | right _ ih => exact .left ih

/-- A list is what is left when the elements of the other one are taken out. -/
theorem filter_eq_left (h : Interleaving l r m) {p : α → Bool} (hl : ∀ a ∈ l, p a = true)
    (hr : ∀ a ∈ r, p a = false) : m.filter p = l := by
  induction h with
  | nil => rfl
  | @left a l r m _ ih =>
    rw [List.filter_cons_of_pos (hl a List.mem_cons_self),
      ih (fun b hb => hl b (List.mem_cons_of_mem a hb)) hr]
  | @right a l r m _ ih =>
    have ha : ¬ p a = true := by simp [hr a List.mem_cons_self]
    rw [List.filter_cons_of_neg ha, ih hl fun b hb => hr b (List.mem_cons_of_mem a hb)]

end Interleaving

namespace Engine

/-! ## Actions and streams -/

/-- Whether an action delivers lines to a stream. -/
def Action.Delivers (s : StreamId) : Action → Prop
  | .scan _ _ stream => stream = some s
  | .scanChunk stream _ _ => stream = s
  | .setUp _ | .setEnabled _ | .changeRegistry _ | .matchLine _ _ | .resetStream _ | .clearAll =>
    False

/-- A delivery concerns its own stream only. -/
theorem Action.Delivers.concerns_eq {s : StreamId} {action : Action} (h : action.Delivers s)
    (t : StreamId) : action.concerns t = (s == t) := by
  cases action with
  | scan lines cwd stream =>
    obtain rfl : stream = some s := h
    rfl
  | scanChunk stream chunk cwd =>
    obtain rfl : stream = s := h
    rfl
  | setUp config => exact h.elim
  | setEnabled enabled => exact h.elim
  | changeRegistry change => exact h.elim
  | matchLine line cwd => exact h.elim
  | resetStream stream => exact h.elim
  | clearAll => exact h.elim

/-- What the actions of a history that concern a stream return. -/
def resultsFor (e : Engine) (s : StreamId) (history : List Action) : List (List Location) :=
  ((history.zip (e.run history).2).filter fun x => x.1.concerns s).map Prod.snd

/-- The results of a longer history. -/
theorem resultsFor_cons (e : Engine) (s : StreamId) (action : Action) (history : List Action) :
    e.resultsFor s (action :: history) =
      if action.concerns s then (e.act action).2 :: (e.act action).1.resultsFor s history
      else (e.act action).1.resultsFor s history := by
  by_cases h : action.concerns s = true <;> simp [resultsFor, run, h]

/-! ## Engines that agree on a stream -/

/-- Two engines are set up alike, and know and hold the same of a stream. -/
structure Agree (s : StreamId) (a b : Engine) : Prop where
  home : a.home = b.home
  config : a.config = b.config
  registry : a.registry = b.registry
  entries : a.index.stream s = b.index.stream s
  state : a.streams.get? s = b.streams.get? s

variable {s : StreamId} {a b c e : Engine}

theorem Agree.refl (s : StreamId) (e : Engine) : Agree s e e :=
  ⟨rfl, rfl, rfl, rfl, rfl⟩

theorem Agree.trans (h : Agree s a b) (k : Agree s b c) : Agree s a c :=
  ⟨h.home.trans k.home, h.config.trans k.config, h.registry.trans k.registry,
    h.entries.trans k.entries, h.state.trans k.state⟩

/-- Engines that agree on a stream are set up alike. -/
theorem Agree.setUpAlike (h : Agree s a b) : SetUpAlike a b :=
  ⟨h.home, h.config, h.registry⟩

/-- Engines that agree on a stream continue it alike. -/
theorem Agree.stateOf_eq (h : Agree s a b) : a.stateOf s = b.stateOf s := by
  rw [stateOf, stateOf, h.state, h.config]

/-- Engines that agree on a stream see the same lines before the next chunk. -/
theorem Agree.lead_eq (h : Agree s a b) : a.lead s = b.lead s := by
  rw [lead, lead, h.stateOf_eq, h.config]

/-- Engines still agree on a stream when nothing but the index and the streams have changed, and
they hold and know the same of the stream. -/
theorem Agree.of_fst (h : Agree s a b) {a' b' : Engine}
    (ha : ∃ streams index, a' = { a with streams := streams, index := index })
    (hb : ∃ streams index, b' = { b with streams := streams, index := index })
    (hentries : a'.index.stream s = b'.index.stream s)
    (hstate : a'.streams.get? s = b'.streams.get? s) : Agree s a' b' := by
  have halike : SetUpAlike a' b' := h.setUpAlike.of_fst ha hb
  exact ⟨halike.home, halike.config, halike.registry, hentries, hstate⟩

/-! ## Single actions -/

/-- An action that does not concern a stream makes no difference to it. -/
theorem agree_act (e : Engine) {action : Action} (h : action.concerns s = false) :
    Agree s (e.act action).1 e := by
  -- such an action scans something or forgets a stream, so that the rest stays as it is
  have hfst : ∃ streams index, (e.act action).1 =
      { e with streams := streams, index := index } := by
    cases action with
    | scan lines cwd stream => exact e.scan_fst lines cwd stream
    | scanChunk stream chunk cwd => exact e.scanChunk_fst stream chunk cwd
    | resetStream stream => exact ⟨_, _, rfl⟩
    | setUp config => cases h
    | setEnabled enabled => cases h
    | changeRegistry change => cases h
    | matchLine line cwd => cases h
    | clearAll => cases h
  exact (Agree.refl s e).of_fst hfst ⟨e.streams, e.index, rfl⟩ (e.stream_index_act h)
    (e.get?_streams_act h)

/-- A chunk of a stream returns the same to engines that agree on the stream. -/
theorem Agree.scanChunk_snd_eq (h : Agree s a b) (chunk : List String) (cwd : Option String) :
    (a.scanChunk s chunk cwd).2 = (b.scanChunk s chunk cwd).2 := by
  cases henabled : a.config.enabled with
  | false =>
    rw [a.scanChunk_of_disabled s cwd henabled,
      b.scanChunk_of_disabled s cwd (h.config ▸ henabled)]
  | true =>
    rw [a.scanChunk_snd s cwd henabled, b.scanChunk_snd s cwd (h.config ▸ henabled),
      h.setUpAlike.matcher_eq, h.lead_eq, h.stateOf_eq]

/-- A scan for a stream keeps engines in agreement on it. -/
theorem Agree.scan (h : Agree s a b) (lines : List String) (cwd : Option String) :
    Agree s (a.scan lines cwd (some s)).1 (b.scan lines cwd (some s)).1 := by
  have hentries : (a.scan lines cwd (some s)).1.index.stream s =
      (b.scan lines cwd (some s)).1.index.stream s := by
    rw [index_scan, index_scan, h.setUpAlike.scan_snd_eq]
    exact LocationIndex.stream_storeAll_congr h.entries _
  have hstate : (a.scan lines cwd (some s)).1.streams.get? s =
      (b.scan lines cwd (some s)).1.streams.get? s := by
    rw [get?_streams_scan, get?_streams_scan, h.config, h.state]
  exact h.of_fst (a.scan_fst lines cwd (some s)) (b.scan_fst lines cwd (some s)) hentries hstate

/-- A chunk of a stream keeps engines in agreement on it. -/
theorem Agree.scanChunk (h : Agree s a b) (chunk : List String) (cwd : Option String) :
    Agree s (a.scanChunk s chunk cwd).1 (b.scanChunk s chunk cwd).1 := by
  have hentries : (a.scanChunk s chunk cwd).1.index.stream s =
      (b.scanChunk s chunk cwd).1.index.stream s := by
    rw [index_scanChunk, index_scanChunk, h.scanChunk_snd_eq]
    exact LocationIndex.stream_storeAll_congr h.entries _
  have hstate : (a.scanChunk s chunk cwd).1.streams.get? s =
      (b.scanChunk s chunk cwd).1.streams.get? s := by
    rw [get?_streams_scanChunk, get?_streams_scanChunk, h.stateOf_eq, h.config, h.state]
  exact h.of_fst (a.scanChunk_fst s chunk cwd) (b.scanChunk_fst s chunk cwd) hentries hstate

/-- **Steps.** An action that concerns a stream keeps engines in agreement on it, and returns the
same to both. -/
theorem Agree.act (h : Agree s a b) {action : Action} (hconcerns : action.concerns s = true) :
    Agree s (a.act action).1 (b.act action).1 ∧ (a.act action).2 = (b.act action).2 := by
  have halike : SetUpAlike (a.act action).1 (b.act action).1 := h.setUpAlike.act action
  cases action with
  | setUp config =>
    exact ⟨⟨halike.home, halike.config, halike.registry, h.entries, h.state⟩, rfl⟩
  | setEnabled enabled =>
    exact ⟨⟨halike.home, halike.config, halike.registry, h.entries, h.state⟩, rfl⟩
  | changeRegistry change =>
    exact ⟨⟨halike.home, halike.config, halike.registry, h.entries, h.state⟩, rfl⟩
  | matchLine line cwd =>
    exact ⟨h, congrArg Option.toList (h.setUpAlike.matchLine_eq line cwd)⟩
  | scan lines cwd stream =>
    obtain rfl : stream = some s := by simpa [Action.concerns] using hconcerns
    exact ⟨h.scan lines cwd, h.setUpAlike.scan_snd_eq lines cwd (some s)⟩
  | scanChunk t chunk cwd =>
    obtain rfl : t = s := by simpa [Action.concerns] using hconcerns
    exact ⟨h.scanChunk chunk cwd, h.scanChunk_snd_eq chunk cwd⟩
  | resetStream t =>
    obtain rfl : t = s := by simpa [Action.concerns] using hconcerns
    refine ⟨⟨h.home, h.config, h.registry, ?_, ?_⟩, rfl⟩
    · show (a.index.clear t).stream t = (b.index.clear t).stream t
      rw [LocationIndex.stream_clear, LocationIndex.stream_clear, if_pos rfl, if_pos rfl]
    · show (a.streams.erase t).get? t = (b.streams.erase t).get? t
      rw [PositionMap.get?_erase, PositionMap.get?_erase, if_pos rfl, if_pos rfl]
  | clearAll => exact ⟨⟨h.home, h.config, h.registry, rfl, rfl⟩, rfl⟩

/-! ## Histories -/

/-- **Runs.** Without the actions that do not concern a stream, a history keeps engines in agreement
on it, and the other actions return the same. -/
theorem Agree.run (h : Agree s a b) (history : List Action) :
    Agree s (a.run history).1 (b.run (history.filter (·.concerns s))).1 ∧
      a.resultsFor s history = (b.run (history.filter (·.concerns s))).2 := by
  -- on the actions, for all engines that agree
  induction history generalizing a b with
  | nil => exact ⟨h, rfl⟩
  | cons action history ih =>
    by_cases hconcerns : action.concerns s = true
    · obtain ⟨hstep, hresult⟩ := h.act hconcerns
      obtain ⟨hrun, hresults⟩ := ih hstep
      rw [List.filter_cons_of_pos hconcerns]
      refine ⟨hrun, ?_⟩
      rw [resultsFor_cons, if_pos hconcerns, hresult, hresults]
      rfl
    · have hstep : Agree s (a.act action).1 b :=
        (agree_act a (by simpa using hconcerns)).trans h
      obtain ⟨hrun, hresults⟩ := ih hstep
      rw [List.filter_cons_of_neg hconcerns]
      refine ⟨hrun, ?_⟩
      rw [resultsFor_cons, if_neg hconcerns, hresults]

/-! ## What can be asked about a stream -/

/-- All that can be asked about a stream is answered alike. -/
structure SameAnswers (s : StreamId) (a b : Engine) : Prop where
  entries : a.index.entries s = b.index.entries s
  locations : a.index.locations s = b.index.locations s
  view : a.view? s = b.view? s
  position : (a.stateOf s).next = (b.stateOf s).next
  locationAt : ∀ p, a.locationAt s p = b.locationAt s p
  next : ∀ cursor, a.next s cursor = b.next s cursor
  previous : ∀ cursor, a.previous s cursor = b.previous s cursor

/-- Engines that agree on a stream answer alike. -/
theorem Agree.sameAnswers (h : Agree s a b) : SameAnswers s a b where
  entries := by rw [LocationIndex.entries, LocationIndex.entries, h.entries]
  locations := by rw [LocationIndex.locations, LocationIndex.locations, h.entries]
  view := by rw [view?, view?, h.state]
  position := by rw [h.stateOf_eq]
  locationAt p := by
    rw [Engine.locationAt, Engine.locationAt, LocationIndex.get?, LocationIndex.get?,
      LocationIndex.nearest?, LocationIndex.nearest?, h.entries, h.config]
  next cursor := by
    rw [Engine.next, Engine.next, LocationIndex.next, LocationIndex.next, LocationIndex.size,
      LocationIndex.size, LocationIndex.after?, LocationIndex.after?, LocationIndex.first?,
      LocationIndex.first?, h.entries, h.config]
  previous cursor := by
    rw [Engine.previous, Engine.previous, LocationIndex.previous, LocationIndex.previous,
      LocationIndex.size, LocationIndex.size, LocationIndex.before?, LocationIndex.before?,
      LocationIndex.last?, LocationIndex.last?, h.entries, h.config]

/-- **Separation.** In every history, the actions that concern a stream return what they return in
the history without all others, and both histories leave the same to be asked about the stream. When
the deliveries to two streams are interleaved in any way, each stream gets what it gets from its own
deliveries alone. -/
theorem streams_do_not_interfere (e : Engine) (s : StreamId) (history : List Action) :
    (e.resultsFor s history = (e.run (history.filter (·.concerns s))).2 ∧
      SameAnswers s (e.run history).1 (e.run (history.filter (·.concerns s))).1) ∧
    ∀ t left right merged, s ≠ t → (∀ action ∈ left, action.Delivers s) →
      (∀ action ∈ right, action.Delivers t) → Interleaving left right merged →
      (e.resultsFor s merged = (e.run left).2 ∧
        SameAnswers s (e.run merged).1 (e.run left).1) ∧
      (e.resultsFor t merged = (e.run right).2 ∧
        SameAnswers t (e.run merged).1 (e.run right).1) := by
  have hall : ∀ stream actions,
      e.resultsFor stream actions = (e.run (actions.filter (·.concerns stream))).2 ∧
        SameAnswers stream (e.run actions).1
          (e.run (actions.filter (·.concerns stream))).1 := by
    intro stream actions
    obtain ⟨hagree, hresults⟩ := (Agree.refl stream e).run actions
    exact ⟨hresults, hagree.sameAnswers⟩
  refine ⟨hall s history, ?_⟩
  intro t left right merged hne hleft hright hmerged
  have hs : merged.filter (·.concerns s) = left := by
    refine hmerged.filter_eq_left (fun action ha => ?_) fun action ha => ?_
    · simp [(hleft action ha).concerns_eq]
    · simp [(hright action ha).concerns_eq, hne.symm]
  have ht : merged.filter (·.concerns t) = right := by
    refine hmerged.symm.filter_eq_left (fun action ha => ?_) fun action ha => ?_
    · simp [(hright action ha).concerns_eq]
    · simp [(hleft action ha).concerns_eq, hne]
  have hfirst := hall s merged
  have hsecond := hall t merged
  rw [hs] at hfirst
  rw [ht] at hsecond
  exact ⟨hfirst, hsecond⟩

/-- A note keeps the cue of its own stream, though the cue of another note comes in between. -/
theorem notes_of_two_streams :
    let left := [.scanChunk 4 ["two"] none, .scanChunk 4 ["todo:8"] none]
    let right := [.scan ["one"] none (some 7), .scanChunk 7 ["done:9"] none]
    let merged := [.scanChunk 4 ["two"] none, .scan ["one"] none (some 7),
      .scanChunk 4 ["todo:8"] none, .scanChunk 7 ["done:9"] none]
    notes.resultsFor 4 merged = (notes.run left).2 ∧
      notes.resultsFor 7 merged = (notes.run right).2 ∧
      (notes.run left).2.map (·.map Location.grammar) = [[], ["second"]] ∧
      (notes.run right).2.map (·.map Location.grammar) = [[], ["first"]] := by
  intro left right merged
  obtain ⟨⟨hleft, -⟩, hright, -⟩ := (streams_do_not_interfere notes 4 []).2 7 left right merged
    (by decide) (by simp [left, Action.Delivers]) (by simp [right, Action.Delivers])
    (.left (.right (.left (.right .nil))))
  exact ⟨hleft, hright, by decide +kernel, by decide +kernel⟩

end Engine

end TraceScan
