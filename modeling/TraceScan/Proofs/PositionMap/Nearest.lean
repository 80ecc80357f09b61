import Mathlib.Data.List.Induction
import TraceScan.Proofs.PositionMap

/-!
# The closest key

The search for the entry closest to a key goes through the entries in reach once, with the closest
one so far. It replaces this one only by an entry that is closer still, so that with rising keys the
lesser of two equally close ones stays (`closest_foldl`). The ends of the reach stop at zero and at
the largest word, which keys that are words do not notice: `Sorted.finds_nearest?`.
-/

namespace TraceScan.PositionMap

variable {α : Type}

/-- Whether a position is closer to `key` than another, or as close and less. -/
def Closer (key a b : Nat) : Prop :=
  distance a key < distance b key ∨ distance a key = distance b key ∧ a < b

/-- Of two positions one is closer. -/
theorem Closer.trichotomous {key : Nat} (a b : Nat) (hab : ¬ Closer key a b)
    (hba : ¬ Closer key b a) : a = b := by
  unfold Closer at hab hba
  omega

/-- No position is closer than itself. -/
theorem not_closer_self (key a : Nat) : ¬ Closer key a a := by
  unfold Closer
  omega

/-! ## The search -/

/-- Whether an entry is the closest one to `key` of some entries, or missing if there are none. -/
def Closest (key : Nat) (entries : List (Nat × α)) : Option (Nat × α) → Prop
  | none => entries = []
  | some best => best ∈ entries ∧ ∀ e ∈ entries, ¬ Closer key e.1 best.1

/-- **Steps.** The closer of the closest entry so far and one behind it is the closest entry of all
these. -/
theorem closest_closer {key : Nat} {entries : List (Nat × α)} {best : Option (Nat × α)}
    (h : Closest key entries best) {e : Nat × α} (hrise : ∀ f ∈ entries, f.1 < e.1) :
    Closest key (entries ++ [e]) (closer key best e) := by
  cases best with
  | none =>
    obtain rfl : entries = [] := h
    exact ⟨List.mem_singleton_self e, by simpa using not_closer_self key e.1⟩
  | some best =>
    obtain ⟨hbest, hclosest⟩ := h
    rw [closer]
    split
    · -- whatever is closer than the new entry would be closer than the old one
      refine ⟨by simp, fun f hf => ?_⟩
      rcases List.mem_append.mp hf with hf | hf
      · have := hclosest f hf
        unfold Closer at this ⊢
        omega
      · obtain rfl := List.mem_singleton.mp hf
        exact not_closer_self key f.1
    · refine ⟨List.mem_append_left _ hbest, fun f hf => ?_⟩
      rcases List.mem_append.mp hf with hf | hf
      · exact hclosest f hf
      · obtain rfl := List.mem_singleton.mp hf
        have := hrise best hbest
        unfold Closer
        omega

/-- **Runs.** The search gives the closest one of entries with rising keys. -/
theorem closest_foldl (key : Nat) {entries : List (Nat × α)}
    (h : entries.Pairwise fun a b => a.1 < b.1) :
    Closest key entries (entries.foldl (closer key) none) := by
  -- on the entries from the last one back, as the search has seen all before it
  induction entries using List.reverseRecOn with
  | nil => rfl
  | append_singleton entries e ih =>
    obtain ⟨hentries, -, hrise⟩ := List.pairwise_append.mp h
    rw [List.foldl_append, List.foldl_cons, List.foldl_nil]
    exact closest_closer (ih hentries) fun f hf => hrise f hf e (List.mem_singleton_self e)

/-! ## The reach -/

/-- Of the words, those in reach of a key are those at most `range` away from it. -/
theorem mem_around {m : PositionMap α} {key range : Nat} {e : Nat × α}
    (hword : e.1 ≤ Text.largest64) :
    e ∈ m.around key range ↔ e ∈ m.entries ∧ distance e.1 key ≤ range := by
  rw [around, List.mem_filter, Bool.and_eq_true, decide_eq_true_eq, decide_eq_true_eq, distance]
  refine and_congr_right fun _ => ?_
  omega

/-- **Nearest values.** Where the keys rise and are words, the nearest value stands under the
closest of the keys in range. -/
theorem Sorted.finds_nearest? {m : PositionMap α} (h : m.Sorted)
    (hwords : ∀ e ∈ m.entries, e.1 ≤ Text.largest64) (key range : Nat) :
    m.Finds (Closer key) (fun other => distance other key ≤ range) (m.nearest? key range) := by
  have hmem : ∀ other value, m.get? other = some value →
      ((other, value) ∈ m.around key range ↔ distance other key ≤ range) := by
    intro other value hother
    have hentry := h.mem_entries_iff.mpr hother
    rw [mem_around (hwords _ hentry)]
    exact and_iff_right hentry
  have hrise : (m.around key range).Pairwise fun a b => a.1 < b.1 := h.sublist List.filter_sublist
  have hclosest := closest_foldl key hrise
  rw [nearest?]
  cases hbest : (m.around key range).foldl (closer key) none with
  | none =>
    rw [hbest] at hclosest
    intro other value hother hrange
    have hnone : m.around key range = [] := hclosest
    simpa [hnone] using (hmem other value hother).mpr hrange
  | some best =>
    rw [hbest] at hclosest
    obtain ⟨hfound, hfirst⟩ := hclosest
    have hstored : m.get? best.1 = some best.2 :=
      h.mem_entries_iff.mp (List.mem_of_mem_filter hfound)
    exact ⟨best.1, hstored, (hmem _ _ hstored).mp hfound,
      fun other w hother hrange => hfirst (other, w) ((hmem other w hother).mpr hrange)⟩

end TraceScan.PositionMap
