import TraceScan.Proofs.Engine.Navigation
import TraceScan.Proofs.LocationIndex.Changes
import TraceScan.Proofs.PositionMap.Nearest

/-!
# The nearest location

A question for the location nearest to a position is answered with the one at the closest position
in range, the earlier of two. An engine that is asked for the location at a position looks there
first and searches only if there is none, and that gives the same
(`Engine.Navigable.locationAt_eq`): the position itself is the closest one of all.
-/

namespace TraceScan

/-- What is stored at a position is what a search for the closest position in any range finds. -/
theorem PositionMap.finds_closer_self {α : Type} {m : PositionMap α} {key : Nat} {value : α}
    (h : m.get? key = some value) (range : Nat) :
    m.Finds (Closer key) (fun other => distance other key ≤ range) (some value) := by
  have hself : distance key key = 0 := by
    unfold distance
    omega
  refine ⟨key, h, by omega, ?_⟩
  intro other w _ _ hcloser
  unfold Closer distance at hcloser
  omega

/-- Where the entries of a stream are navigable, the location at a position is the nearest one. -/
theorem Engine.Navigable.locationAt_eq {e : Engine} {s : StreamId} (h : e.Navigable s)
    (position : Nat) :
    e.locationAt s position = e.index.nearest? s position e.config.nearestRange := by
  have hwords : ∀ entry ∈ (e.index.stream s).entries, entry.1 ≤ Text.largest64 :=
    fun entry hentry => Nat.le_of_lt (h.bounds entry hentry).2
  have hnearest := h.ordered.sorted.finds_nearest? hwords position e.config.nearestRange
  rw [locationAt]
  cases hstored : e.index.get? s position with
  | none => rw [Option.none_or]
  | some l =>
    have hself := PositionMap.finds_closer_self hstored e.config.nearestRange
    rw [Option.some_or]
    exact hself.unique PositionMap.Closer.trichotomous hnearest

namespace LocationIndex

/-- **Nearest locations.** After every sequence of changes at positions that are words of 64 bits, a
question for the nearest location is answered with nothing just if no position with a location is in
range, and otherwise with the location at the closest of these positions, the earlier one of two. In
every reachable engine, the location at a position is this nearest location. -/
theorem nearest_is_closest_in_range :
    (∀ changes : List Change, (∀ change ∈ changes, change.InWords) →
      let index := changes.foldl apply {}
      ∀ s p range answer, index.nearest? s p range = answer ↔
        (index.stream s).Finds (PositionMap.Closer p)
          (fun q => PositionMap.distance q p ≤ range) answer) ∧
      ∀ e : Engine, e.Reachable → ∀ s p,
        e.locationAt s p = e.index.nearest? s p e.config.nearestRange := by
  refine ⟨?_, fun e he s p => (he.navigable s).locationAt_eq p⟩
  intro changes hchanges index s p range answer
  have hsorted : (index.stream s).Sorted := (wellFormed_foldl_apply changes).stream s
  have hwords : ∀ entry ∈ (index.stream s).entries, entry.1 ≤ Text.largest64 :=
    le_largest64_of_mem_entries hchanges
  exact (hsorted.finds_nearest? hwords p range).eq_iff PositionMap.Closer.trichotomous

/-- Of two locations that are as close, the earlier one is the nearest; a search in all words from
the largest one ends at it; and where no line is stored, an engine tells a note two lines away. -/
theorem earlier_of_two_and_note_two_lines_away :
    let changes : List Change := [.store 1 14 (sampleLocation 14), .store 1 10 (sampleLocation 10),
      .store 1 0 (sampleLocation 0), .store 2 Text.largest64 (sampleLocation 1)]
    let index := changes.foldl apply {}
    let e := ((({ home := some "/home" } : Engine).act
      (.changeRegistry (.register (Registry.noteGrammar "first" "one")))).1.act
        (.scanChunk 4 ["todo:7", "x", "y"] none)).1
    (index.stream 1).Finds (PositionMap.Closer 12) (fun q => PositionMap.distance q 12 ≤ 2)
        (some (sampleLocation 10)) ∧
      (index.stream 2).Finds (PositionMap.Closer Text.largest64)
        (fun q => PositionMap.distance q Text.largest64 ≤ Text.largest64)
        (some (sampleLocation 1)) ∧
      (e.index.get? 4 3 = none ∧ (e.locationAt 4 3).map Location.line = some 7) ∧
      e.locationAt 4 3 = e.index.nearest? 4 3 e.config.nearestRange := by
  intro changes index e
  have hreachable : e.Reachable := by
    refine .step _ (.step _ (.new (some "/home")) fun t => ?_) fun t => ?_
    · show 1 < UInt64.size
      decide
    · show ((Engine.scanChunk _ 4 ["todo:7", "x", "y"] none).1.stateOf t).next < UInt64.size
      rw [Engine.next_stateOf_scanChunk]
      show 1 + (if _ then 3 else 0) < UInt64.size
      split <;> decide
  obtain ⟨hnearest, hengines⟩ := nearest_is_closest_in_range
  have hchanges : ∀ change ∈ changes, change.InWords := by decide +kernel
  refine ⟨(hnearest changes hchanges 1 12 2 _).mp (by decide +kernel),
    (hnearest changes hchanges 2 _ _ _).mp (by decide +kernel), by decide +kernel,
    hengines e hreachable 4 3⟩

end LocationIndex

end TraceScan
