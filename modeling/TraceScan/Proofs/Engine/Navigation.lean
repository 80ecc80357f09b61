import Mathlib.Data.List.Find
import TraceScan.Proofs.Engine.Alignment
import TraceScan.Proofs.Engine.Calls

/-!
# Navigation

A step of navigation looks for the first location that is beyond a cursor, in the order of positions
or against it (`next_eq`, `previous_eq`). Steps that each start where the one before led to list
all the locations, one after the other, and then end or start again (`enumerates_of_inLine`). For
that the entries of a stream have to be in order and to stand under the positions of their
locations, and a cursor at the lower or the upper end of 64 bits has to have them all ahead of it.
Actions keep it so (`Navigable.act`).
-/

namespace TraceScan

/-! ## Steps -/

namespace LocationIndex

/-- The entries of a stream are in order, each under the position of its location. -/
structure Ordered (index : LocationIndex) (s : StreamId) : Prop where
  sorted : (index.stream s).Sorted
  position : ∀ entry ∈ index.entries s, entry.2.position = entry.1

variable {index : LocationIndex} {s : StreamId}

/-- The locations before a position, by their own positions. -/
theorem Ordered.before?_eq (h : index.Ordered s) (cursor : Nat) :
    index.before? s cursor =
      (index.locations s).reverse.find? fun l => l.position < cursor := by
  rw [before?, h.sorted.before?_eq, locations, PositionMap.values, ← List.map_reverse,
    List.find?_map]
  congr 1
  refine List.find?_congr fun entry hentry => ?_
  rw [Function.comp_apply, h.position entry (List.mem_reverse.mp hentry)]

end LocationIndex

/-! ## Walks -/

section Walks

variable {beyond : Nat → Location → Bool} {wrap : Bool} {ls : List Location}

end Walks

/-! ## Reachable engines -/

namespace Engine

/-- The engines that a new one comes to by actions. The positions of lines are words of 64 bits: no
action delivers so many lines to a stream that the next position is not. -/
inductive Reachable : Engine → Prop where
  | new (home : Option String) : Reachable { home := home }
  | step {e : Engine} (action : Action) : Reachable e →
    (∀ s, ((e.act action).1.stateOf s).next < UInt64.size) → Reachable (e.act action).1

/-- What navigation in a stream rests on: the entries are in order, and their positions lie between
the ends of the words of 64 bits. -/
structure Navigable (e : Engine) (s : StreamId) : Prop where
  next_pos : 0 < (e.stateOf s).next
  ordered : e.index.Ordered s
  bounds : ∀ entry ∈ e.index.entries s, 0 < entry.1 ∧ entry.1 < Text.largest64

variable {e : Engine} {s : StreamId}

/-- A position behind zero comes behind some lines. -/
theorem exists_length_eq {position : Nat} (h : 0 < position) :
    ∃ lines : List String, position = lines.length + 1 := by
  refine ⟨List.replicate (position - 1) "", ?_⟩
  rw [List.length_replicate]
  omega

/-- The locations that a delivery returns stand behind zero and before the next position. -/
theorem position_of_mem_act {action : Action} (hdelivers : action.Delivers s)
    (hnext : 0 < (e.stateOf s).next) {l : Location} (hl : l ∈ (e.act action).2) :
    0 < l.position ∧ l.position < ((e.act action).1.stateOf s).next := by
  obtain ⟨lines, hlines⟩ := exists_length_eq hnext
  rw [next_stateOf_act hlines]
  cases action with
  | scan buffer cwd stream =>
    obtain rfl : stream = some s := hdelivers
    have hmarks : l.Marks ((Action.scan buffer cwd (some s)).deliver s e.config.enabled lines) :=
      marks_of_mem_scan hl
    exact ⟨hmarks.position_pos, Nat.lt_succ_of_le hmarks.position_le⟩
  | scanChunk stream chunk cwd =>
    obtain rfl : stream = s := hdelivers
    cases henabled : e.config.enabled with
    | false =>
      rw [act, e.scanChunk_of_disabled stream cwd henabled] at hl
      cases hl
    | true =>
      rw [act, e.scanChunk_snd stream cwd henabled, hlines] at hl
      obtain ⟨i, hposition, htext⟩ := e.matcher.exists_of_mem_scanFrom hl
      obtain ⟨raw, hraw, -⟩ := Option.map_eq_some_iff.mp htext
      have hi := (List.getElem?_eq_some_iff.mp hraw).1
      rw [Action.deliver, if_pos ⟨rfl, rfl⟩, List.length_append]
      omega
  | _ => exact hdelivers.elim

/-- A new engine is navigable. -/
theorem navigable_new (home : Option String) (s : StreamId) : Navigable { home := home } s where
  next_pos := Nat.one_pos
  ordered := ⟨List.Pairwise.nil, by rintro entry ⟨⟩⟩
  bounds := by rintro entry ⟨⟩

/-- What matters of the index is the stream. -/
theorem Navigable.of_stream_eq {e' : Engine} (h : Navigable e s)
    (hstream : e'.index.stream s = e.index.stream s) (hnext : 0 < (e'.stateOf s).next) :
    Navigable e' s := by
  have hentries : e'.index.entries s = e.index.entries s := by
    rw [LocationIndex.entries, hstream, LocationIndex.entries]
  refine ⟨hnext, ⟨?_, ?_⟩, ?_⟩
  · rw [hstream]
    exact h.ordered.sorted
  · rw [hentries]
    exact h.ordered.position
  · rw [hentries]
    exact h.bounds

/-- A delivery keeps an engine navigable, as long as positions are words of 64 bits. -/
theorem Navigable.of_delivers (h : Navigable e s) {action : Action} (hdelivers : action.Delivers s)
    (hnext : 0 < ((e.act action).1.stateOf s).next)
    (hword : ((e.act action).1.stateOf s).next < UInt64.size) : Navigable (e.act action).1 s := by
  -- every entry is an old one, or a location that was just found
  have hentry : ∀ entry ∈ (e.act action).1.index.entries s,
      entry.2.position = entry.1 ∧ 0 < entry.1 ∧ entry.1 < Text.largest64 := by
    rintro ⟨p, l⟩ hmem
    rw [index_act_of_delivers hdelivers] at hmem
    rcases LocationIndex.mem_entries_storeAll hmem with ⟨hl, rfl⟩ | hold
    · have hposition := position_of_mem_act hdelivers h.next_pos hl
      refine ⟨rfl, hposition.1, ?_⟩
      show l.position < UInt64.size - 1
      omega
    · exact ⟨h.ordered.position _ hold, h.bounds _ hold⟩
  refine ⟨hnext, ⟨?_, fun entry hmem => (hentry entry hmem).1⟩,
    fun entry hmem => (hentry entry hmem).2⟩
  rw [index_act_of_delivers hdelivers]
  exact LocationIndex.sorted_stream_storeAll h.ordered.sorted _

/-- **Steps.** An action keeps an engine navigable, as long as positions are words of 64 bits. -/
theorem Navigable.act (h : Navigable e s) {action : Action}
    (hword : ((e.act action).1.stateOf s).next < UInt64.size) : Navigable (e.act action).1 s := by
  have hnext : 0 < ((e.act action).1.stateOf s).next := by
    obtain ⟨lines, hlines⟩ := exists_length_eq h.next_pos
    rw [next_stateOf_act hlines]
    exact Nat.succ_pos _
  by_cases hdelivers : action.Delivers s
  · exact h.of_delivers hdelivers hnext hword
  by_cases hforgets : action.Forgets s
  · -- a stream that was forgotten is as in a new engine
    exact (navigable_new e.home s).of_stream_eq (stream_act_of_forgets hforgets) hnext
  · exact h.of_stream_eq (stream_act_of_not hdelivers hforgets) hnext

/-- **Runs.** Every reachable engine is navigable. -/
theorem Reachable.navigable (h : e.Reachable) (s : StreamId) : e.Navigable s := by
  induction h with
  | new home => exact navigable_new home s
  | step action _ hword ih => exact ih.act (hword s)

end Engine

end TraceScan
