import TraceScan.Proofs.LocationIndex

/-!
# The index as an ordered map

An index starts empty and is changed by storing a location, by dropping the entries of one stream
and by dropping all entries. Whatever the changes, its streams and the entries of each of them stay
in order (`wellFormed_foldl_apply`), and what it holds at a position of a stream is what the changes
stored there last (`get?_foldl_apply`). All queries then answer as one ordered map for each stream:
`answers_as_ordered_maps`.
-/

namespace TraceScan.LocationIndex

/-! ## Changes -/

/-- A change of an index. -/
inductive Change where
  | store (s : StreamId) (position : Nat) (l : Location)
  | clear (s : StreamId)
  | clearAll
  deriving DecidableEq

/-- The index after a change. -/
def apply (index : LocationIndex) : Change → LocationIndex
  | .store s position l => index.store s position l
  | .clear s => index.clear s
  | .clearAll => {}

/-- Whether a change drops the entries of a stream. -/
def Change.Drops (s : StreamId) : Change → Prop
  | .store _ _ _ => False
  | .clear t => t = s
  | .clearAll => True

/-- Whether a change is about a stream. -/
def Change.Concerns (s : StreamId) : Change → Prop
  | .store t _ _ => t = s
  | .clear t => t = s
  | .clearAll => True

/-- Whether a change stores at no position that is not a word of 64 bits. -/
def Change.InWords : Change → Prop
  | .store _ position _ => position ≤ Text.largest64
  | .clear _ | .clearAll => True

instance : DecidablePred Change.InWords
  | .store _ position _ => inferInstanceAs (Decidable (position ≤ Text.largest64))
  | .clear _ | .clearAll => inferInstanceAs (Decidable True)

/-- A change that is not about a stream leaves it as it is. -/
theorem stream_apply_of_not_concerns {change : Change} {s : StreamId} (h : ¬ change.Concerns s)
    (index : LocationIndex) : (index.apply change).stream s = index.stream s := by
  cases change with
  | store t position l =>
    have hne : s ≠ t := fun hst => h hst.symm
    rw [apply, stream_store, if_neg hne]
  | clear t =>
    have hne : s ≠ t := fun hst => h hst.symm
    rw [apply, stream_clear, if_neg hne]
  | clearAll => exact (h trivial).elim

/-! ## Order -/

/-- The streams of an index and the entries of each of them are in order. -/
structure WellFormed (index : LocationIndex) : Prop where
  byStream : index.byStream.Sorted
  stream : ∀ s, (index.stream s).Sorted

/-- Changes keep an index well-formed. -/
theorem WellFormed.apply {index : LocationIndex} (h : index.WellFormed) (change : Change) :
    (index.apply change).WellFormed := by
  cases change with
  | store t position l =>
    refine ⟨h.byStream.insert t _, fun s => ?_⟩
    rw [LocationIndex.apply, stream_store]
    split
    · exact (h.stream t).insert position l
    · exact h.stream s
  | clear t =>
    refine ⟨h.byStream.erase t, fun s => ?_⟩
    rw [LocationIndex.apply, stream_clear]
    split
    · exact List.Pairwise.nil
    · exact h.stream s
  | clearAll => exact ⟨List.Pairwise.nil, fun _ => List.Pairwise.nil⟩

/-- An index stays well-formed through all changes. -/
theorem wellFormed_foldl_apply (changes : List Change) :
    (changes.foldl apply {}).WellFormed := by
  induction changes using List.reverseRecOn with
  | nil => exact ⟨List.Pairwise.nil, fun _ => List.Pairwise.nil⟩
  | append_singleton changes change ih =>
    rw [List.foldl_append]
    exact ih.apply change

/-- A stream is listed if it has entries. -/
theorem WellFormed.mem_streams {index : LocationIndex} (h : index.WellFormed) {s : StreamId} :
    s ∈ index.streams ↔ 0 < index.size s := by
  rw [streams, List.mem_map, size, LocationIndex.stream]
  constructor
  · rintro ⟨⟨t, m⟩, hmem, rfl⟩
    obtain ⟨hentry, hsize⟩ := List.mem_filter.mp hmem
    rw [h.byStream.mem_entries_iff.mp hentry, Option.getD_some]
    simpa [Nat.pos_iff_ne_zero] using hsize
  · intro hsize
    cases hm : index.byStream.get? s with
    | none =>
      rw [hm] at hsize
      cases hsize
    | some m =>
      rw [hm, Option.getD_some] at hsize
      refine ⟨(s, m), List.mem_filter.mpr ⟨h.byStream.mem_entries_iff.mpr hm, ?_⟩, rfl⟩
      simpa [Nat.pos_iff_ne_zero] using hsize

/-- The streams are listed in ascending order. -/
theorem WellFormed.pairwise_streams {index : LocationIndex} (h : index.WellFormed) :
    index.streams.Pairwise (· < ·) :=
  List.pairwise_map.mpr (h.byStream.sublist List.filter_sublist)

/-! ## Content -/

/-- Whether a location is the last one that was stored at a position of a stream since the entries
of the stream were dropped. -/
def LastStored (s : StreamId) (p : Nat) (l : Location) (changes : List Change) : Prop :=
  LastOf (· = .store s p l) (fun change => ¬ change.Drops s ∧ ∀ k, change ≠ .store s p k) changes

section Content

variable {index : LocationIndex} {s : StreamId} {p : Nat} {l : Location}

/-- **Steps.** After a change an index holds at a position what the change stores there, or what it
held before if the change leaves it. -/
theorem get?_apply {change : Change} :
    (index.apply change).get? s p = some l ↔
      change = .store s p l ∨
        (¬ change.Drops s ∧ ∀ k, change ≠ .store s p k) ∧ index.get? s p = some l := by
  cases change with
  | store t q k =>
    rw [apply, get?_store]
    by_cases hplace : s = t ∧ p = q
    · obtain ⟨rfl, rfl⟩ := hplace
      simp
    · have hother : ¬ (t = s ∧ q = p) := fun h => hplace ⟨h.1.symm, h.2.symm⟩
      rw [if_neg hplace]
      simp only [Change.Drops, Change.store.injEq, not_false_eq_true, true_and, ne_eq]
      constructor
      · exact fun hl => Or.inr ⟨fun k' heq => hother ⟨heq.1, heq.2.1⟩, hl⟩
      · rintro (heq | ⟨-, hl⟩)
        · exact (hother ⟨heq.1, heq.2.1⟩).elim
        · exact hl
  | clear t =>
    rw [apply, get?, stream_clear]
    by_cases hst : s = t
    · subst t
      simp [Change.Drops, PositionMap.get?]
    · have hts : t ≠ s := fun h => hst h.symm
      simp [if_neg hst, Change.Drops, hts, get?]
  | clearAll => simp [apply, Change.Drops, get?, stream, PositionMap.get?]

/-- **Runs.** After all changes an index holds at a position what they stored there last. -/
theorem get?_foldl_apply (changes : List Change) :
    (changes.foldl apply {}).get? s p = some l ↔ LastStored s p l changes := by
  -- on the changes from the last one back, as the content is told
  induction changes using List.reverseRecOn with
  | nil =>
    show _ ↔ LastOf _ _ []
    simp [not_lastOf_nil, get?, stream, PositionMap.get?]
  | append_singleton changes change ih =>
    rw [List.foldl_append, List.foldl_cons, List.foldl_nil, get?_apply, ih, LastStored, LastStored,
      lastOf_concat]

/-- What was stored last is one of the changes. -/
theorem LastStored.mem {changes : List Change} (h : LastStored s p l changes) :
    Change.store s p l ∈ changes := by
  obtain ⟨change, hmem, rfl⟩ := LastOf.exists_mem h
  exact hmem

/-- Where changes store at words only, the keys of an index are words. -/
theorem le_largest64_of_mem_entries {changes : List Change}
    (h : ∀ change ∈ changes, change.InWords) :
    ∀ entry ∈ (changes.foldl apply {}).entries s, entry.1 ≤ Text.largest64 := by
  rintro ⟨p, l⟩ hentry
  have hget := ((wellFormed_foldl_apply changes).stream s).mem_entries_iff.mp hentry
  exact h _ ((get?_foldl_apply changes).mp hget).mem

end Content

/-! ## Queries -/

/-- Whether an index answers about a stream as an ordered map with the given content. -/
structure ActsAsMap (index : LocationIndex) (s : StreamId) (Holds : Nat → Location → Prop) :
    Prop where
  get : ∀ p l, index.get? s p = some l ↔ Holds p l
  entries : ∀ p l, (p, l) ∈ index.entries s ↔ Holds p l
  rising : (index.entries s).Pairwise fun a b => a.1 < b.1
  size : index.size s = (index.entries s).length
  first_end : index.first? s = (index.entries s).head?.map Prod.snd
  last_end : index.last? s = (index.entries s).getLast?.map Prod.snd
  first : (index.stream s).Finds (· < ·) (fun _ => True) (index.first? s)
  last : (index.stream s).Finds (· > ·) (fun _ => True) (index.last? s)
  after : ∀ p, (index.stream s).Finds (· < ·) (p < ·) (index.after? s p)
  before : ∀ p, (index.stream s).Finds (· > ·) (· < p) (index.before? s p)

/-- A stream with its entries in order answers as an ordered map with what is found in it. -/
theorem WellFormed.actsAsMap {index : LocationIndex} (h : index.WellFormed) {s : StreamId}
    {Holds : Nat → Location → Prop} (hget : ∀ p l, index.get? s p = some l ↔ Holds p l) :
    index.ActsAsMap s Holds where
  get := hget
  entries p l := (h.stream s).mem_entries_iff.trans (hget p l)
  rising := h.stream s
  size := rfl
  first_end := List.head?_map
  last_end := List.getLast?_map
  first := (h.stream s).finds_first?
  last := (h.stream s).finds_last?
  after := (h.stream s).finds_after?
  before := (h.stream s).finds_before?

/-- The first location from the next position on, where the largest word is next to itself, unless
it stands at the position that the search starts from. -/
def fromNext? (index : LocationIndex) (s : StreamId) (position : Nat) : Option Location :=
  let next := (index.entries s).find? fun entry => min (position + 1) Text.largest64 ≤ entry.1
  (next.filter fun entry => position < entry.1).map Prod.snd

/-- Where all positions are words, a search may start from the next word. -/
theorem fromNext?_eq {index : LocationIndex} {s : StreamId} {p : Nat} (hp : p ≤ Text.largest64)
    (hwords : ∀ entry ∈ index.entries s, entry.1 ≤ Text.largest64) :
    index.fromNext? s p = index.after? s p := by
  rw [fromNext?, after?, PositionMap.after?]
  refine congrArg (Option.map Prod.snd) ?_
  show _ = (index.entries s).find? fun entry => p < entry.1
  rcases Nat.lt_or_eq_of_le hp with hlt | rfl
  · have hnext : min (p + 1) Text.largest64 = p + 1 := Nat.min_eq_left hlt
    rw [hnext]
    show ((index.entries s).find? fun entry => decide (p < entry.1)).filter _ = _
    cases hfound : (index.entries s).find? fun entry => decide (p < entry.1) with
    | none => rfl
    | some entry => rw [Option.filter_some, if_pos (List.find?_some hfound)]
  · -- nothing is behind the largest word, so that the check leaves nothing
    have hnone : (index.entries s).find? (fun entry => Text.largest64 < entry.1) = none := by
      rw [List.find?_eq_none]
      intro entry hentry
      have := hwords entry hentry
      simp only [decide_eq_true_eq]
      omega
    rw [hnone, Option.filter_eq_none_iff]
    intro entry hentry
    have := hwords entry (List.mem_of_find?_eq_some hentry)
    simp only [decide_eq_true_eq]
    omega

/-- **Ordered maps.** After every sequence of changes, an index answers about each stream as an
ordered map that holds at each position what was stored there last since the stream was cleared. It
lists exactly the streams with entries, in ascending order, and a change of one stream leaves all
others as they are. Where the positions are words of 64 bits, a search behind any of these words may
start from the next one, or from itself if it is the largest. -/
theorem answers_as_ordered_maps (changes : List Change) :
    let index := changes.foldl apply {}
    (∀ s, index.ActsAsMap s fun p l => LastStored s p l changes) ∧
      index.streams.Pairwise (· < ·) ∧ (∀ s, s ∈ index.streams ↔ 0 < index.size s) ∧
      (∀ (change : Change) s, ¬ change.Concerns s →
        (index.apply change).stream s = index.stream s) ∧
      ((∀ change ∈ changes, change.InWords) → ∀ s p, p ≤ Text.largest64 →
        index.after? s p = index.fromNext? s p) := by
  intro index
  have h : index.WellFormed := wellFormed_foldl_apply changes
  refine ⟨?_, h.pairwise_streams, fun s => h.mem_streams, ?_, ?_⟩
  · exact fun s => h.actsAsMap fun p l => get?_foldl_apply changes
  · exact fun change s hother => stream_apply_of_not_concerns hother index
  · intro hwords s p hp
    exact (fromNext?_eq hp (le_largest64_of_mem_entries hwords)).symm

/-- A location at some line of a file. -/
def sampleLocation (line : Nat) : Location where
  grammar := "c"
  rawPath := "a.c"
  path := "a.c"
  line := line
  position := line

/-- Of two locations stored at zero the later one is held, of a stream that was cleared nothing is,
and nothing is behind a location at the largest word. -/
theorem zero_overwritten_and_stream_cleared :
    let changes : List Change := [.store 1 Text.largest64 (sampleLocation 3),
      .store 1 0 (sampleLocation 1), .store 2 5 (sampleLocation 5), .store 1 0 (sampleLocation 2),
      .clear 2]
    let index := changes.foldl apply {}
    (LastStored 1 0 (sampleLocation 2) changes ∧ ¬ LastStored 1 0 (sampleLocation 1) changes) ∧
      index.streams = [1] ∧ ¬ 0 < index.size 2 ∧
      (index.apply (.clear 2)).stream 1 = index.stream 1 ∧
      index.after? 1 Text.largest64 = index.fromNext? 1 Text.largest64 ∧
      index.fromNext? 1 Text.largest64 = none := by
  intro changes index
  obtain ⟨hmaps, -, hstreams, hothers, hwords⟩ := answers_as_ordered_maps changes
  have hzero : index.get? 1 0 = some (sampleLocation 2) := by decide +kernel
  have hold : ¬ index.get? 1 0 = some (sampleLocation 1) := by decide +kernel
  have hlisted : index.streams = [1] := by decide +kernel
  refine ⟨⟨((hmaps 1).get 0 _).mp hzero, fun h => hold (((hmaps 1).get 0 _).mpr h)⟩, hlisted, ?_,
    ?_, ?_, by decide +kernel⟩
  · rw [← hstreams 2, hlisted]
    decide
  · have hother : ¬ (2 : StreamId) = 1 := by decide
    exact hothers (.clear 2) 1 hother
  · exact hwords (by decide +kernel) 1 Text.largest64 (Nat.le_refl _)

end TraceScan.LocationIndex
