import TraceScan.Proofs.Engine.Calls

/-!
# The index as a replay

What the index holds can be told from the answers that an engine has given, without a look at the
engine: at each position of a stream there is the location that was found there last since the
stream was forgotten, and nothing if there was none. The module defines that reading of a log of
calls with their answers (`LastFound`), compares it with the index for one more call
(`get?_respond`, `lastOf_concat`), and so for every session (`index_replays_answers`).
-/

namespace TraceScan.Engine

/-! ## Logs -/

/-- Whether a call with its answer finds a location at a position of a stream: the call delivers
lines to the stream, and the location is among the answer. -/
structure Finds (s : StreamId) (p : Nat) (l : Location) (entry : Call × Answer) : Prop where
  delivers : entry.1.Delivers s
  mem : l ∈ entry.2.locations
  position : l.position = p

/-- Whether a location is the last one that a log has at a position of a stream: some call finds it,
and none of the later calls makes the stream be forgotten or finds anything at the position. -/
def LastFound (s : StreamId) (p : Nat) (l : Location) (log : List (Call × Answer)) : Prop :=
  ∃ earlier entry later, log = earlier ++ entry :: later ∧ Finds s p l entry ∧
    ∀ other ∈ later, ¬ other.1.Forgets s ∧ ∀ k, ¬ Finds s p k other

/-! ## Single calls -/

section Calls

variable {e : Engine} {s : StreamId} {p : Nat} {l : Location} {call : Call}

/-- What a call finds at a position is what the index then holds there. -/
theorem get?_respond_of_finds (h : Finds s p l (call, (e.respond call).2)) :
    (e.respond call).1.index.get? s p = some l := by
  obtain ⟨⟨action, haction, hdelivers⟩, hl, hp⟩ := h
  obtain ⟨hengine, hanswer⟩ := respond_of_some (e := e) haction
  rw [hengine, index_act_of_delivers hdelivers, ← hp]
  exact LocationIndex.get?_storeAll_of_mem (pairwise_position_act hdelivers) (hanswer ▸ hl) _ s

/-- A call that makes a stream be forgotten leaves nothing of it. -/
theorem get?_respond_of_forgets (h : call.Forgets s) :
    (e.respond call).1.index.get? s p = none := by
  obtain ⟨action, haction, hforgets⟩ := h
  rw [(respond_of_some haction).1, LocationIndex.get?, stream_act_of_forgets hforgets]
  rfl

/-- A call that neither makes a stream be forgotten nor finds anything at a position leaves what the
index holds there. -/
theorem get?_respond_of_not (hforgets : ¬ call.Forgets s)
    (hfinds : ∀ k, ¬ Finds s p k (call, (e.respond call).2)) :
    (e.respond call).1.index.get? s p = e.index.get? s p := by
  cases haction : call.action? with
  | none => rw [respond_fst_of_none haction]
  | some action =>
    obtain ⟨hengine, hanswer⟩ := respond_of_some (e := e) haction
    by_cases hdelivers : action.Delivers s
    · have hother : ∀ k ∈ (e.act action).2, k.position ≠ p := fun k hk hkp =>
        hfinds k ⟨(delivers_iff_of_some haction).mpr hdelivers, hanswer ▸ hk, hkp⟩
      rw [hengine, index_act_of_delivers hdelivers,
        LocationIndex.get?_storeAll_of_forall_ne hother]
    · rw [forgets_iff_of_some haction] at hforgets
      rw [hengine, LocationIndex.get?, stream_act_of_not hdelivers hforgets, LocationIndex.get?]

/-- **Steps.** After a call the index holds at a position what the call finds there, or what it held
before if the call leaves it. -/
theorem get?_respond :
    (e.respond call).1.index.get? s p = some l ↔
      Finds s p l (call, (e.respond call).2) ∨
        (¬ call.Forgets s ∧ ∀ k, ¬ Finds s p k (call, (e.respond call).2)) ∧
          e.index.get? s p = some l := by
  by_cases hforgets : call.Forgets s
  · -- a call that finds something does not make the stream be forgotten
    have hnone := get?_respond_of_forgets (e := e) (p := p) hforgets
    have hfinds : ¬ Finds s p l (call, (e.respond call).2) := by
      intro hfound
      rw [get?_respond_of_finds hfound] at hnone
      cases hnone
    simp [hnone, hforgets, hfinds]
  · by_cases hfinds : ∃ k, Finds s p k (call, (e.respond call).2)
    · obtain ⟨k, hk⟩ := hfinds
      rw [get?_respond_of_finds hk, Option.some.injEq]
      constructor
      · rintro rfl
        exact Or.inl hk
      · rintro (hl | ⟨⟨-, hnot⟩, -⟩)
        · exact Option.some.inj ((get?_respond_of_finds hk).symm.trans (get?_respond_of_finds hl))
        · exact (hnot k hk).elim
    · have hnot : ∀ k, ¬ Finds s p k (call, (e.respond call).2) := not_exists.mp hfinds
      rw [get?_respond_of_not hforgets hnot]
      simp [hforgets, hnot]

/-- A call that makes no stream be forgotten, and delivers lines to none unless the engine is
switched off, leaves the whole index as it is. -/
theorem index_respond_of_not (hforgets : ∀ t, ¬ call.Forgets t)
    (hdelivers : ∀ t, call.Delivers t → e.config.enabled = false) :
    (e.respond call).1.index = e.index := by
  cases haction : call.action? with
  | none => rw [respond_fst_of_none haction]
  | some action =>
    rw [(respond_of_some haction).1]
    simp only [forgets_iff_of_some haction] at hforgets
    simp only [delivers_iff_of_some haction] at hdelivers
    cases action with
    | scan lines cwd stream =>
      cases stream with
      | none => rw [act, scan_none_fst]
      | some t => rw [act, e.scan_of_disabled cwd (hdelivers t rfl)]
    | scanChunk t chunk cwd => rw [act, e.scanChunk_of_disabled t cwd (hdelivers t rfl)]
    | resetStream t => exact (hforgets t rfl).elim
    | clearAll => exact (hforgets 0 trivial).elim
    | setUp config => rfl
    | setEnabled enabled => rfl
    | changeRegistry change => rfl
    | matchLine line cwd => rfl

end Calls

/-! ## Sessions -/

/-- In a session with an engine that holds no location at a position, the index holds there what the
log of the session has last. -/
theorem get?_session {e : Engine} {s : StreamId} {p : Nat} (he : e.index.get? s p = none)
    (calls : List Call) (l : Location) :
    (e.session calls).1.index.get? s p = some l ↔
      LastFound s p l (calls.zip (e.session calls).2) := by
  -- on the calls from the last one back, as the log reads
  induction calls using List.reverseRecOn generalizing l with
  | nil =>
    show e.index.get? s p = some l ↔ LastOf _ _ []
    simp [he, not_lastOf_nil]
  | append_singleton calls call ih =>
    have hlength : calls.length = (e.session calls).2.length := (e.length_session calls).symm
    rw [session_append, List.zip_append hlength]
    show ((e.session calls).1.respond call).1.index.get? s p = some l ↔
      LastOf _ _ (_ ++ [(call, ((e.session calls).1.respond call).2)])
    rw [get?_respond, lastOf_concat, ih]
    rfl

/-- **Replay.** After every session with a new engine, the index holds at a position of a stream the
location that was found there last since the stream was forgotten, and nothing if there is none.
Whatever else an engine is asked for leaves the index as it is: a call that makes no stream be
forgotten, and that delivers lines to no stream or comes while the engine is switched off. -/
theorem index_replays_answers (home : Option String) (calls : List Call) :
    let result := session { home := home } calls
    (∀ s p, (∀ l, result.1.index.get? s p = some l ↔ LastFound s p l (calls.zip result.2)) ∧
      (result.1.index.get? s p = none ↔ ∀ l, ¬ LastFound s p l (calls.zip result.2))) ∧
      ∀ call : Call, (∀ t, ¬ call.Forgets t) →
        (∀ t, call.Delivers t → result.1.config.enabled = false) →
        (result.1.respond call).1.index = result.1.index := by
  intro result
  have hget : ∀ s p l, result.1.index.get? s p = some l ↔
      LastFound s p l (calls.zip result.2) := fun s p l => get?_session rfl calls l
  refine ⟨fun s p => ⟨hget s p, ?_⟩, fun call => index_respond_of_not⟩
  rw [Option.eq_none_iff_forall_ne_some]
  exact forall_congr' fun l => not_congr (hget s p l)

/-- A note that was found again in a shorter buffer stands in the place of the one found before it,
and the other note stays. What comes while the engine is switched off changes nothing. -/
theorem notes_replayed :
    let calls : List Call := [
      .act (.changeRegistry (.register (Registry.noteGrammar "first" "one"))),
      .act (.scanChunk 4 ["todo:7", "done:9"] none), .report ["todo:8"] none (some 4) 0 "now",
      .act (.setEnabled false)]
    let result := session { home := some "/home" } calls
    let call := Call.act (.scanChunk 4 ["todo:5", "done:6", "todo:7"] none)
    (result.1.index.locations 4).map Location.line = [8, 9] ∧
      (∀ l, ¬ LastFound 4 3 l (calls.zip result.2)) ∧
      (result.1.respond call).1.index = result.1.index := by
  intro calls result call
  obtain ⟨hget, hleaves⟩ := index_replays_answers (some "/home") calls
  have hnone : result.1.index.get? 4 3 = none := by decide +kernel
  have hoff : result.1.config.enabled = false := by decide +kernel
  refine ⟨by decide +kernel, (hget 4 3).2.mp hnone, hleaves call ?_ fun _ _ => hoff⟩
  simp [call, Call.Forgets, Call.action?, Action.Forgets]

end TraceScan.Engine
