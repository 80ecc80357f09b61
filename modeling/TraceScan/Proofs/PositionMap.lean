import Mathlib.Data.List.Sort
import TraceScan.PositionMap

/-!
# Look-up in position maps

What a change of a map means for the value under each key. None of that depends on the order of the
entries. Where their keys rise, the entries are the pairs of a key and the value under it
(`Sorted.mem_entries_iff`), and changes keep it so (`Sorted.insert`, `Sorted.erase`).

The queries by order then find the first key of some kind, from the lower or from the upper end
(`Finds`). At most one answer does (`Finds.unique`).
-/

namespace TraceScan.PositionMap

variable {α : Type}

/-- Inserting sets the value under its key. -/
theorem lookup_insertAux_self (key : Nat) (value : α) (entries : List (Nat × α)) :
    (insertAux key value entries).lookup key = some value := by
  induction entries with
  | nil => simp [insertAux]
  | cons entry entries ih =>
    obtain ⟨k, v⟩ := entry
    rw [insertAux]
    split
    · simp
    · split
      · simp
      · have hk : (key == k) = false := by simpa
        rw [List.lookup_cons, hk, ih]

/-- Inserting leaves the values under other keys. -/
theorem lookup_insertAux_of_ne {key other : Nat} (h : other ≠ key) (value : α)
    (entries : List (Nat × α)) :
    (insertAux key value entries).lookup other = entries.lookup other := by
  have hother : (other == key) = false := by simpa using h
  induction entries with
  | nil => rw [insertAux, List.lookup_cons, hother]
  | cons entry entries ih =>
    obtain ⟨k, v⟩ := entry
    rw [insertAux]
    split
    · rw [List.lookup_cons, hother]
    · split
      · subst k
        rw [List.lookup_cons, List.lookup_cons, hother]
      · rw [List.lookup_cons, List.lookup_cons, ih]

/-- The value under a key after an insertion. -/
theorem get?_insert (m : PositionMap α) (key other : Nat) (value : α) :
    (m.insert key value).get? other = if other = key then some value else m.get? other := by
  by_cases h : other = key
  · rw [if_pos h, h]
    exact lookup_insertAux_self key value m.entries
  · rw [if_neg h]
    exact lookup_insertAux_of_ne h value m.entries

/-- The value under a key after a removal. -/
theorem get?_erase (m : PositionMap α) (key other : Nat) :
    (m.erase key).get? other = if other = key then none else m.get? other := by
  obtain ⟨entries⟩ := m
  rw [erase, get?, get?]
  induction entries with
  | nil => simp
  | cons entry entries ih =>
    obtain ⟨k, v⟩ := entry
    by_cases hk : k = key
    · subst k
      rw [List.filter_cons_of_neg (by simp), ih, List.lookup_cons]
      by_cases h : other = key
      · rw [if_pos h, if_pos h]
      · have hother : (other == key) = false := by simpa using h
        rw [if_neg h, if_neg h, hother]
    · rw [List.filter_cons_of_pos (by simpa using hk), List.lookup_cons, List.lookup_cons]
      by_cases hok : other = k
      · subst other
        rw [if_neg hk]
        simp
      · have hother : (other == k) = false := by simpa using hok
        rw [hother, ih]

/-! ## Rising keys -/

/-- The keys of a map rise. -/
def Sorted (m : PositionMap α) : Prop :=
  m.entries.Pairwise fun a b => a.1 < b.1

/-- The entries after an insertion are the new one and old ones. -/
theorem mem_insertAux {key : Nat} {value : α} {entries : List (Nat × α)} {entry : Nat × α}
    (h : entry ∈ insertAux key value entries) : entry = (key, value) ∨ entry ∈ entries := by
  induction entries with
  | nil => exact Or.inl (List.mem_singleton.mp h)
  | cons first entries ih =>
    obtain ⟨k, v⟩ := first
    rw [insertAux] at h
    split at h
    · exact List.mem_cons.mp h
    · split at h
      · rcases List.mem_cons.mp h with h | h
        · exact Or.inl h
        · exact Or.inr (List.mem_cons_of_mem _ h)
      · rcases List.mem_cons.mp h with h | h
        · exact Or.inr (List.mem_cons.mpr (Or.inl h))
        · exact (ih h).imp_right (List.mem_cons_of_mem _)

/-- An insertion among entries with rising keys keeps them rising. -/
theorem pairwise_insertAux (key : Nat) (value : α) {entries : List (Nat × α)}
    (h : entries.Pairwise fun a b => a.1 < b.1) :
    (insertAux key value entries).Pairwise fun a b => a.1 < b.1 := by
  induction entries with
  | nil => exact List.pairwise_singleton _ _
  | cons first entries ih =>
    obtain ⟨k, v⟩ := first
    have hfirst := List.pairwise_cons.mp h
    rw [insertAux]
    split
    · refine List.pairwise_cons.mpr ⟨?_, h⟩
      intro entry hentry
      rcases List.mem_cons.mp hentry with rfl | hentry
      · assumption
      · exact Nat.lt_trans ‹key < k› (hfirst.1 entry hentry)
    · split
      · subst k
        exact List.pairwise_cons.mpr hfirst
      · refine List.pairwise_cons.mpr ⟨?_, ih hfirst.2⟩
        intro entry hentry
        rcases mem_insertAux hentry with rfl | hentry
        · show k < key
          omega
        · exact hfirst.1 entry hentry

/-- The keys of a map still rise after an insertion. -/
theorem Sorted.insert {m : PositionMap α} (h : m.Sorted) (key : Nat) (value : α) :
    (m.insert key value).Sorted :=
  pairwise_insertAux key value h

/-- The keys of a map still rise after a removal. -/
theorem Sorted.erase {m : PositionMap α} (h : m.Sorted) (key : Nat) : (m.erase key).Sorted :=
  h.sublist List.filter_sublist

section Entries

variable {κ : Type} [LT κ]

/-- Among entries with rising keys, a look-up finds the one entry with its key. -/
theorem mem_iff_lookup_eq_some [BEq κ] [LawfulBEq κ] (hirrefl : ∀ k : κ, ¬ k < k)
    {entries : List (κ × α)} (h : entries.Pairwise fun a b => a.1 < b.1) {key : κ} {value : α} :
    (key, value) ∈ entries ↔ entries.lookup key = some value := by
  induction entries with
  | nil => simp
  | cons first entries ih =>
    obtain ⟨k, v⟩ := first
    have hfirst := List.pairwise_cons.mp h
    rw [List.mem_cons, List.lookup_cons]
    by_cases hk : key = k
    · subst k
      have habsent : (key, value) ∉ entries :=
        fun hmem => hirrefl key (hfirst.1 _ hmem)
      simp [habsent, eq_comm]
    · have hbeq : (key == k) = false := by simpa using hk
      rw [hbeq, ← ih hfirst.2]
      simp [hk]

/-- Only one list with rising keys has given entries. -/
theorem eq_of_mem_iff (hasymm : ∀ k l : κ, k < l → ¬ l < k) {entries others : List (κ × α)}
    (h : entries.Pairwise fun a b => a.1 < b.1) (hothers : others.Pairwise fun a b => a.1 < b.1)
    (hmem : ∀ entry, entry ∈ entries ↔ entry ∈ others) : entries = others := by
  have : Std.Irrefl fun a b : κ × α => a.1 < b.1 := ⟨fun a ha => hasymm _ _ ha ha⟩
  have : Std.Antisymm fun a b : κ × α => a.1 < b.1 :=
    ⟨fun a b hab hba => absurd hba (hasymm _ _ hab)⟩
  exact List.Pairwise.eq_of_mem_iff h hothers hmem

end Entries

/-- **Entries.** Where the keys rise, the entries are the pairs of a key and the value under it. -/
theorem Sorted.mem_entries_iff {m : PositionMap α} (h : m.Sorted) {key : Nat} {value : α} :
    (key, value) ∈ m.entries ↔ m.get? key = some value :=
  mem_iff_lookup_eq_some Nat.lt_irrefl h

/-- Where the keys rise, the entries are the one list with rising keys that holds what is found. -/
theorem Sorted.entries_eq {m : PositionMap α} (hm : m.Sorted) {entries : List (Nat × α)}
    (h : entries.Pairwise fun a b => a.1 < b.1)
    (hmem : ∀ key value, (key, value) ∈ entries ↔ m.get? key = some value) :
    m.entries = entries := by
  refine eq_of_mem_iff (fun _ _ => Nat.lt_asymm) hm h ?_
  rintro ⟨key, value⟩
  rw [hm.mem_entries_iff, hmem]

/-! ## Queries by order -/

/-- Whether an answer is the value under the first key of a kind, by an order of the keys, or
nothing if there is no key of this kind. -/
def Finds (m : PositionMap α) (before : Nat → Nat → Prop) (kind : Nat → Prop) : Option α → Prop
  | none => ∀ key value, m.get? key = some value → ¬ kind key
  | some value => ∃ key, m.get? key = some value ∧ kind key ∧
      ∀ other w, m.get? other = some w → kind other → ¬ before other key

/-- Where any two keys are one before the other, there is only one answer. -/
theorem Finds.unique {m : PositionMap α} {before : Nat → Nat → Prop} {kind : Nat → Prop}
    (hbefore : ∀ a b, ¬ before a b → ¬ before b a → a = b) {answer other : Option α}
    (h : m.Finds before kind answer) (h' : m.Finds before kind other) : answer = other := by
  cases answer with
  | none =>
    cases other with
    | none => rfl
    | some w =>
      obtain ⟨key, hkey, hkind, -⟩ := h'
      exact (h key w hkey hkind).elim
  | some v =>
    obtain ⟨key, hkey, hkind, hfirst⟩ := h
    cases other with
    | none => exact (h' key v hkey hkind).elim
    | some w =>
      obtain ⟨key', hkey', hkind', hfirst'⟩ := h'
      obtain rfl : key = key' :=
        hbefore key key' (hfirst' key v hkey hkind) (hfirst key' w hkey' hkind')
      exact hkey.symm.trans hkey'

/-- Where any two keys are one before the other, an answer that is right is the one answer. -/
theorem Finds.eq_iff {m : PositionMap α} {before : Nat → Nat → Prop} {kind : Nat → Prop}
    (hbefore : ∀ a b, ¬ before a b → ¬ before b a → a = b) {answer other : Option α}
    (h : m.Finds before kind answer) : answer = other ↔ m.Finds before kind other :=
  ⟨fun heq => heq ▸ h, h.unique hbefore⟩

/-- In a list of the entries by some order, the first one of a kind is the first by this order. -/
theorem finds_find? {m : PositionMap α} {before : Nat → Nat → Prop}
    (hbefore : ∀ a b, before a b → ¬ before b a) {entries : List (Nat × α)}
    (hmem : ∀ key value, (key, value) ∈ entries ↔ m.get? key = some value)
    (horder : entries.Pairwise fun a b => before a.1 b.1) (kind : Nat → Prop)
    [DecidablePred kind] :
    m.Finds before kind ((entries.find? fun e => kind e.1).map Prod.snd) := by
  cases hfound : entries.find? fun e => kind e.1 with
  | none =>
    intro key value hkey
    simpa using List.find?_eq_none.mp hfound (key, value) ((hmem key value).mpr hkey)
  | some entry =>
    obtain ⟨hkind, skipped, later, rfl, hskipped⟩ := List.find?_eq_some_iff_append.mp hfound
    have hentry : entry ∈ skipped ++ entry :: later := by simp
    refine ⟨entry.1, (hmem _ _).mp hentry, by simpa using hkind, ?_⟩
    intro other w hother hkind' hlt
    have hlater := List.pairwise_cons.mp (List.pairwise_append.mp horder).2.1
    -- an entry of the kind is none of those that were skipped
    rcases List.mem_append.mp ((hmem other w).mpr hother) with hmem | hmem
    · simpa [hkind'] using hskipped _ hmem
    · rcases List.mem_cons.mp hmem with rfl | hmem
      · exact hbefore _ _ hlt hlt
      · exact hbefore _ _ (hlater.1 _ hmem) hlt

section Sorted

variable {m : PositionMap α}

/-- Up to a bound, entries in order are those below the bound. -/
theorem takeWhile_eq_filter {entries : List (Nat × α)}
    (h : entries.Pairwise fun a b => a.1 < b.1) (key : Nat) :
    (entries.takeWhile fun entry => entry.1 < key) = entries.filter fun entry => entry.1 < key := by
  induction entries with
  | nil => rfl
  | cons first rest ih =>
    obtain ⟨hfirst, hrest⟩ := List.pairwise_cons.mp h
    by_cases hlt : first.1 < key
    · rw [List.takeWhile_cons_of_pos (by simpa using hlt),
        List.filter_cons_of_pos (by simpa using hlt), ih hrest]
    · -- the others have greater keys still
      have hnone : rest.filter (fun entry => entry.1 < key) = [] := by
        rw [List.filter_eq_nil_iff]
        intro entry hentry
        have := hfirst entry hentry
        simp only [decide_eq_true_eq]
        omega
      rw [List.takeWhile_cons_of_neg (by simpa using hlt),
        List.filter_cons_of_neg (by simpa using hlt), hnone]

/-- The last entry before a key is the first one from the upper end. -/
theorem Sorted.before?_eq (h : m.Sorted) (key : Nat) :
    m.before? key = (m.entries.reverse.find? fun entry => entry.1 < key).map Prod.snd := by
  rw [before?, takeWhile_eq_filter h, ← List.head?_reverse, ← List.filter_reverse,
    List.head?_filter]

/-- Searches from the lower end find the least key of a kind. -/
theorem Sorted.finds_from_lower (h : m.Sorted) (kind : Nat → Prop) [DecidablePred kind] :
    m.Finds (· < ·) kind ((m.entries.find? fun e => kind e.1).map Prod.snd) := by
  refine finds_find? ?_ ?_ h kind
  · exact fun a b => Nat.lt_asymm
  · exact fun key value => h.mem_entries_iff

/-- Searches from the upper end find the greatest key of a kind. -/
theorem Sorted.finds_from_upper (h : m.Sorted) (kind : Nat → Prop) [DecidablePred kind] :
    m.Finds (· > ·) kind ((m.entries.reverse.find? fun e => kind e.1).map Prod.snd) := by
  refine finds_find? ?_ ?_ ?_ kind
  · exact fun a b => Nat.lt_asymm
  · exact fun key value => List.mem_reverse.trans h.mem_entries_iff
  · exact List.pairwise_reverse.mpr h

/-- The first value stands under the least key. -/
theorem Sorted.finds_first? (h : m.Sorted) : m.Finds (· < ·) (fun _ => True) m.first? := by
  have hfirst : m.first? = (m.entries.find? fun _ => true).map Prod.snd := by
    rw [first?, values, List.head?_map, ← List.head?_filter, List.filter_true]
  simpa [hfirst] using h.finds_from_lower fun _ => True

/-- The last value stands under the greatest key. -/
theorem Sorted.finds_last? (h : m.Sorted) : m.Finds (· > ·) (fun _ => True) m.last? := by
  have hlast : m.last? = (m.entries.reverse.find? fun _ => true).map Prod.snd := by
    rw [last?, values, List.getLast?_map, ← List.head?_reverse, ← List.head?_filter,
      List.filter_true]
  simpa [hlast] using h.finds_from_upper fun _ => True

/-- **Successors.** The value behind a key stands under the least of the greater keys. -/
theorem Sorted.finds_after? (h : m.Sorted) (key : Nat) : m.Finds (· < ·) (key < ·) (m.after? key) :=
  h.finds_from_lower (key < ·)

/-- **Predecessors.** The value before a key stands under the greatest of the lesser keys. -/
theorem Sorted.finds_before? (h : m.Sorted) (key : Nat) :
    m.Finds (· > ·) (· < key) (m.before? key) := by
  rw [h.before?_eq]
  exact h.finds_from_upper (· < key)

end Sorted

end TraceScan.PositionMap
