import Mathlib.Data.List.Forall2
import Mathlib.Data.List.Induction
import TraceScan.LocationIndex
import TraceScan.Proofs.PositionMap

/-!
# What an index holds

What is found under a stream and a position after locations have been stored. Storing locations at
rising positions leaves each of them at its own position (`get?_storeAll_of_mem`), and elsewhere
what was there before (`get?_storeAll_of_forall_ne`). Nothing else is left when there was nothing
elsewhere (`entries_storeAll`).

What an index holds is often told by the last one of some events that later ones leave alone
(`LastOf`).
-/

namespace TraceScan

/-! ## Logs -/

/-- Whether some event of a log is one that is looked for, and all later ones leave it alone. -/
def LastOf {α : Type} (wanted leaves : α → Prop) (log : List α) : Prop :=
  ∃ earlier event later, log = earlier ++ event :: later ∧ wanted event ∧
    ∀ other ∈ later, leaves other

/-- In no log at all there is a last event. -/
theorem not_lastOf_nil {α : Type} (wanted leaves : α → Prop) : ¬ LastOf wanted leaves [] := by
  rintro ⟨earlier, event, later, hlog, -⟩
  simp at hlog

/-- The last event of a log with one more is this one, or it was the last one before and this one
leaves it alone. -/
theorem lastOf_concat {α : Type} {wanted leaves : α → Prop} {log : List α} {event : α} :
    LastOf wanted leaves (log ++ [event]) ↔
      wanted event ∨ leaves event ∧ LastOf wanted leaves log := by
  constructor
  · rintro ⟨earlier, found, later, hlog, hfound, hlater⟩
    rcases List.eq_nil_or_concat later with rfl | ⟨between, last, rfl⟩
    · -- nothing comes behind the event that was found, so it is the last one
      obtain ⟨-, hevent⟩ := List.append_inj' hlog rfl
      obtain rfl : event = found := by simpa using hevent
      exact Or.inl hfound
    · rw [List.concat_eq_append] at hlog hlater
      rw [← List.cons_append, ← List.append_assoc] at hlog
      obtain ⟨hbefore, hevent⟩ := List.append_inj' hlog rfl
      obtain rfl : event = last := by simpa using hevent
      refine Or.inr ⟨hlater event (by simp), earlier, found, between, hbefore, hfound, ?_⟩
      exact fun other hother => hlater other (List.mem_append_left _ hother)
  · rintro (hfound | ⟨hleaves, earlier, found, later, rfl, hfound, hlater⟩)
    · exact ⟨log, event, [], rfl, hfound, by simp⟩
    · refine ⟨earlier, found, later ++ [event], by simp, hfound, ?_⟩
      intro other hother
      rcases List.mem_append.mp hother with hother | hother
      · exact hlater other hother
      · obtain rfl := List.mem_singleton.mp hother
        exact hleaves

/-- The last event is one of the log. -/
theorem LastOf.exists_mem {α : Type} {wanted leaves : α → Prop} {log : List α}
    (h : LastOf wanted leaves log) : ∃ event ∈ log, wanted event := by
  obtain ⟨earlier, event, later, rfl, hwanted, -⟩ := h
  exact ⟨event, by simp, hwanted⟩

namespace LocationIndex

/-! ## One location -/

/-- A location goes into the entries of its stream. -/
theorem stream_store (index : LocationIndex) (s t : StreamId) (position : Nat) (l : Location) :
    (index.store s position l).stream t =
      if t = s then (index.stream s).insert position l else index.stream t := by
  rw [store, stream, PositionMap.get?_insert]
  by_cases ht : t = s
  · rw [if_pos ht, if_pos ht, Option.getD_some]
  · rw [if_neg ht, if_neg ht, stream]

/-- What is found after a location has been stored. -/
theorem get?_store (index : LocationIndex) (s t : StreamId) (position p : Nat) (l : Location) :
    (index.store s position l).get? t p =
      if t = s ∧ p = position then some l else index.get? t p := by
  rw [get?, stream_store, get?]
  by_cases ht : t = s
  · subst t
    rw [if_pos rfl, PositionMap.get?_insert]
    by_cases hp : p = position
    · rw [if_pos hp, if_pos ⟨rfl, hp⟩]
    · rw [if_neg hp, if_neg (by simp [hp])]
  · rw [if_neg ht, if_neg (by simp [ht])]

/-- Clearing a stream drops its entries. -/
theorem stream_clear (index : LocationIndex) (s t : StreamId) :
    (index.clear s).stream t = if t = s then {} else index.stream t := by
  rw [clear, stream, PositionMap.get?_erase]
  by_cases ht : t = s
  · rw [if_pos ht, if_pos ht, Option.getD_none]
  · rw [if_neg ht, if_neg ht, stream]

/-! ## Many locations -/

/-- Storing locations one after the other. -/
theorem storeAll_cons (index : LocationIndex) (s : StreamId) (l : Location)
    (ls : List Location) :
    index.storeAll s (l :: ls) = (index.store s l.position l).storeAll s ls :=
  rfl

/-- The entries of a stream stay in order. -/
theorem sorted_stream_storeAll {index : LocationIndex} {s t : StreamId}
    (h : (index.stream t).Sorted) (ls : List Location) :
    ((index.storeAll s ls).stream t).Sorted := by
  induction ls generalizing index with
  | nil => exact h
  | cons l ls ih =>
    rw [storeAll_cons]
    apply ih
    rw [stream_store]
    split
    · subst t
      exact h.insert l.position l
    · exact h

/-- Other streams keep their entries. -/
theorem stream_storeAll_of_ne {s t : StreamId} (h : t ≠ s) (index : LocationIndex)
    (ls : List Location) : (index.storeAll s ls).stream t = index.stream t := by
  induction ls generalizing index with
  | nil => rfl
  | cons l ls ih => rw [storeAll_cons, ih, stream_store, if_neg h]

/-- What a stream holds after locations have been stored follows from what it held before. -/
theorem stream_storeAll_congr {i j : LocationIndex} {s : StreamId} (h : i.stream s = j.stream s)
    (ls : List Location) : (i.storeAll s ls).stream s = (j.storeAll s ls).stream s := by
  induction ls generalizing i j with
  | nil => exact h
  | cons l ls ih =>
    rw [storeAll_cons, storeAll_cons]
    apply ih
    rw [stream_store, stream_store, if_pos rfl, if_pos rfl, h]

/-- Where no location is stored, what was there stays. -/
theorem get?_storeAll_of_forall_ne {p : Nat} {ls : List Location} (h : ∀ l ∈ ls, l.position ≠ p)
    (index : LocationIndex) (s : StreamId) : (index.storeAll s ls).get? s p = index.get? s p := by
  induction ls generalizing index with
  | nil => rfl
  | cons l ls ih =>
    have hl : p ≠ l.position := (h l List.mem_cons_self).symm
    rw [storeAll_cons, ih (fun k hk => h k (List.mem_cons_of_mem l hk)), get?_store,
      if_neg (by simp [hl])]

/-- **Storing.** Of locations at rising positions, each is found at its own position. -/
theorem get?_storeAll_of_mem {ls : List Location}
    (hrise : ls.Pairwise fun a b => a.position < b.position) {l : Location} (hl : l ∈ ls)
    (index : LocationIndex) (s : StreamId) :
    (index.storeAll s ls).get? s l.position = some l := by
  induction ls generalizing index with
  | nil => cases hl
  | cons first ls ih =>
    obtain ⟨hfirst, hrest⟩ := List.pairwise_cons.mp hrise
    rw [storeAll_cons]
    rcases List.mem_cons.mp hl with rfl | hl
    · -- none of the others is stored over the first one
      have hbehind : ∀ k ∈ ls, k.position ≠ l.position := fun k hk => Nat.ne_of_gt (hfirst k hk)
      rw [get?_storeAll_of_forall_ne hbehind, get?_store, if_pos ⟨rfl, rfl⟩]
    · exact ih hrest hl _

/-- The entries after locations have been stored are old ones, and the locations at their own
positions. -/
theorem mem_entries_storeAll {index : LocationIndex} {s : StreamId} {ls : List Location}
    {p : Nat} {l : Location} (h : (p, l) ∈ (index.storeAll s ls).entries s) :
    (l ∈ ls ∧ l.position = p) ∨ (p, l) ∈ index.entries s := by
  induction ls generalizing index with
  | nil => exact Or.inr h
  | cons first ls ih =>
    rw [storeAll_cons] at h
    rcases ih h with ⟨hl, hp⟩ | hold
    · exact Or.inl ⟨List.mem_cons_of_mem first hl, hp⟩
    · rw [entries, stream_store, if_pos rfl] at hold
      rcases PositionMap.mem_insertAux hold with heq | hold
      · obtain ⟨rfl, rfl⟩ := Prod.mk.inj heq
        exact Or.inl ⟨List.mem_cons_self, rfl⟩
      · exact Or.inr hold

/-- **Overwriting.** Where locations at rising positions are stored over all entries of a stream,
they are the entries. -/
theorem entries_storeAll {index : LocationIndex} {s : StreamId} (h : (index.stream s).Sorted)
    {ls : List Location} (hrise : ls.Pairwise fun a b => a.position < b.position)
    (hover : ∀ p l, index.get? s p = some l → ∃ k ∈ ls, k.position = p) :
    (index.storeAll s ls).entries s = ls.map fun l => (l.position, l) := by
  refine (sorted_stream_storeAll h ls).entries_eq (List.pairwise_map.mpr hrise) ?_
  intro p l
  show _ ↔ (index.storeAll s ls).get? s p = some l
  constructor
  · intro hmem
    obtain ⟨k, hk, heq⟩ := List.mem_map.mp hmem
    obtain ⟨rfl, rfl⟩ := Prod.mk.inj heq
    exact get?_storeAll_of_mem hrise hk index s
  · intro hl
    -- an entry at a position of no location was there before
    obtain ⟨k, hk, rfl⟩ : ∃ k ∈ ls, k.position = p := by
      by_contra hnone
      have hold : ∀ k ∈ ls, k.position ≠ p := fun k hk hkp => hnone ⟨k, hk, hkp⟩
      rw [get?_storeAll_of_forall_ne hold] at hl
      exact hnone (hover p l hl)
    rw [get?_storeAll_of_mem hrise hk, Option.some.injEq] at hl
    exact hl ▸ List.mem_map_of_mem hk

/-- Storing related locations at equal positions keeps two indexes related. -/
theorem rel_get?_storeAll {R : Location → Location → Prop}
    (hposition : ∀ l k, R l k → l.position = k.position) {ls ks : List Location}
    (h : List.Forall₂ R ls ks) {i j : LocationIndex}
    (hij : ∀ t p, Option.Rel R (i.get? t p) (j.get? t p)) (s t : StreamId) (p : Nat) :
    Option.Rel R ((i.storeAll s ls).get? t p) ((j.storeAll s ks).get? t p) := by
  induction h generalizing i j with
  | nil => exact hij t p
  | @cons l k ls ks hlk _ ih =>
    rw [storeAll_cons, storeAll_cons]
    apply ih
    intro t p
    rw [get?_store, get?_store, ← hposition l k hlk]
    split
    · exact .some hlk
    · exact hij t p

end LocationIndex

end TraceScan
