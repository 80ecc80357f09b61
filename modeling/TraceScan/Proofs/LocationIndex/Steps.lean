import TraceScan.Proofs.LocationIndex.Changes

/-!
# Steps and their outcomes

A step of navigation leads from a cursor to the first location that is beyond it, or with wrapping
to the first one of all when none is. It leads nowhere if there are no locations, or no more of
them, and tells which. Steps in both directions are one notion, for the order of the positions and
for its opposite (`PositionMap.LeadsTo`). A step back undoes a step from a position with a location
(`PositionMap.LeadsTo.back`), also where the search wraps.
-/

namespace TraceScan

namespace PositionMap

/-! ## Outcomes -/

/-- Whether a step from a cursor comes to a result: a location at the first position beyond the
cursor, by some order, or at the first position of all if none is beyond and the search wraps; no
location at all; or none beyond the cursor, if the search does not wrap. -/
def LeadsTo (m : PositionMap Location) (before : Nat → Nat → Prop) (wrap : Bool) (cursor : Nat) :
    Except NavigationError Location → Prop
  | .ok l => m.Finds before (before cursor) (some l) ∨
      wrap = true ∧ m.Finds before (before cursor) none ∧ m.Finds before (fun _ => True) (some l)
  | .error .noLocations => m.entries = []
  | .error .noMoreLocations =>
    m.entries ≠ [] ∧ wrap = false ∧ m.Finds before (before cursor) none

variable {m : PositionMap Location} {before : Nat → Nat → Prop} {wrap : Bool} {cursor : Nat}

/-- Among no entries nothing is found. -/
theorem not_finds_some_of_nil (h : m.entries = []) {kind : Nat → Prop} {l : Location} :
    ¬ m.Finds before kind (some l) := by
  rintro ⟨key, hkey, -⟩
  rw [get?, h] at hkey
  cases hkey

/-- Among some entries, one is the first of all. -/
theorem Sorted.exists_first (h : m.Sorted) (hne : m.entries ≠ []) {first : Option Location}
    (hfirst : m.Finds before (fun _ => True) first) : ∃ l, first = some l := by
  cases first with
  | some l => exact ⟨l, rfl⟩
  | none =>
    obtain ⟨⟨key, l⟩, hentry⟩ := List.exists_mem_of_ne_nil _ hne
    exact (hfirst key l (h.mem_entries_iff.mp hentry) trivial).elim

/-- **Outcomes.** From the first location beyond the cursor and the first one of all, a step tells
the one result that it leads to. -/
theorem Sorted.leadsTo_iff (h : m.Sorted) (hbefore : ∀ a b, ¬ before a b → ¬ before b a → a = b)
    {beyond first : Option Location} (hbeyond : m.Finds before (before cursor) beyond)
    (hfirst : m.Finds before (fun _ => True) first) (result : Except NavigationError Location) :
    (if m.size = 0 then .error .noLocations
      else match beyond.or (if wrap then first else none) with
        | some l => .ok l
        | none => .error .noMoreLocations) = result ↔ m.LeadsTo before wrap cursor result := by
  by_cases hempty : m.entries = []
  · have hsize : m.size = 0 := by rw [size, hempty, List.length_nil]
    rw [if_pos hsize]
    match result with
    | .ok l =>
      refine iff_of_false (by simp) ?_
      rintro (hl | ⟨-, -, hl⟩)
      · exact not_finds_some_of_nil hempty hl
      · exact not_finds_some_of_nil hempty hl
    | .error .noLocations => exact iff_of_true rfl hempty
    | .error .noMoreLocations => exact iff_of_false (by simp) fun hmore => hmore.1 hempty
  · have hsize : m.size ≠ 0 := fun hzero => hempty (List.eq_nil_of_length_eq_zero hzero)
    obtain ⟨f, rfl⟩ := h.exists_first hempty hfirst
    rw [if_neg hsize]
    match result with
    | .ok l =>
      rw [LeadsTo, ← hbeyond.eq_iff hbefore, ← hbeyond.eq_iff hbefore, ← hfirst.eq_iff hbefore]
      cases beyond <;> cases wrap <;> simp
    | .error .noLocations =>
      refine iff_of_false ?_ hempty
      split <;> simp
    | .error .noMoreLocations =>
      rw [LeadsTo, ← hbeyond.eq_iff hbefore]
      cases beyond <;> cases wrap <;> simp [hempty]

/-- **Steps back.** Where locations stand at their own positions, a step in the opposite order
undoes a step from a position with a location. -/
theorem LeadsTo.back (hposition : ∀ p l, m.get? p = some l → l.position = p) {p : Nat}
    {l k : Location} (hl : m.get? p = some l) (h : m.LeadsTo before wrap p (.ok k)) :
    m.LeadsTo (fun a b => before b a) wrap k.position (.ok l) := by
  rcases h with ⟨q, hk, hpq, hfirst⟩ | ⟨hwrap, hnone, q, hk, -, hfirst⟩
  · -- whatever lies between the two positions would have been found before
    obtain rfl := hposition q k hk
    exact Or.inl ⟨p, hl, hpq, fun r w hr hbetween hpr => hfirst r w hr hpr hbetween⟩
  · -- nothing is beyond the one position, and nothing comes before the other one
    obtain rfl := hposition q k hk
    refine Or.inr ⟨hwrap, fun r w hr => hfirst r w hr trivial, p, hl, trivial, ?_⟩
    exact fun r w hr _ => hnone r w hr

/-- With wrapping, a step leads to a location if there is one at all. -/
theorem LeadsTo.exists_ok {result : Except NavigationError Location}
    (h : m.LeadsTo before true cursor result) {p : Nat} {l : Location} (hl : m.get? p = some l) :
    ∃ k, result = .ok k := by
  match result with
  | .ok k => exact ⟨k, rfl⟩
  | .error .noLocations =>
    have hempty : m.entries = [] := h
    rw [get?, hempty] at hl
    cases hl
  | .error .noMoreLocations => cases h.2.1

end PositionMap

namespace LocationIndex

variable {index : LocationIndex} {s : StreamId}

/-! ## Both directions -/

/-- A step forward leads on in the order of the positions. -/
theorem WellFormed.next_eq_iff (h : index.WellFormed) (cursor : Nat) (wrap : Bool)
    (result : Except NavigationError Location) :
    index.next s cursor wrap = result ↔
      (index.stream s).LeadsTo (· < ·) wrap cursor result := by
  have hstream := h.stream s
  have hbefore : ∀ a b : Nat, ¬ a < b → ¬ b < a → a = b := fun a b => by omega
  exact hstream.leadsTo_iff hbefore (hstream.finds_after? cursor) hstream.finds_first? result

/-- A step backward leads on in the opposite order. -/
theorem WellFormed.previous_eq_iff (h : index.WellFormed) (cursor : Nat) (wrap : Bool)
    (result : Except NavigationError Location) :
    index.previous s cursor wrap = result ↔
      (index.stream s).LeadsTo (· > ·) wrap cursor result := by
  have hstream := h.stream s
  have hbefore : ∀ a b : Nat, ¬ a > b → ¬ b > a → a = b := fun a b => by omega
  exact hstream.leadsTo_iff hbefore (hstream.finds_before? cursor) hstream.finds_last? result

/-- Whether steps from a position with a location are undone by steps in the other direction: with
wrapping all of them, and without it those that lead to a location. -/
structure StepsReturn (index : LocationIndex) (s : StreamId) (p : Nat) (l : Location) : Prop where
  next_wrap : ∃ k, index.next s p true = .ok k ∧ index.previous s k.position true = .ok l
  previous_wrap : ∃ k, index.previous s p true = .ok k ∧ index.next s k.position true = .ok l
  next : ∀ k, index.next s p false = .ok k → index.previous s k.position false = .ok l
  previous : ∀ k, index.previous s p false = .ok k → index.next s k.position false = .ok l

/-- Where locations stand at their own positions, steps from them are undone. -/
theorem WellFormed.stepsReturn (h : index.WellFormed)
    (hposition : ∀ entry ∈ index.entries s, entry.2.position = entry.1) {p : Nat} {l : Location}
    (hl : index.get? s p = some l) : index.StepsReturn s p l := by
  have hown : ∀ q k, (index.stream s).get? q = some k → k.position = q :=
    fun q k hk => hposition (q, k) ((h.stream s).mem_entries_iff.mpr hk)
  have hnext : ∀ wrap k, index.next s p wrap = .ok k →
      index.previous s k.position wrap = .ok l := by
    intro wrap k hk
    rw [h.next_eq_iff] at hk
    exact (h.previous_eq_iff _ _ _).mpr (hk.back hown hl)
  have hprevious : ∀ wrap k, index.previous s p wrap = .ok k →
      index.next s k.position wrap = .ok l := by
    intro wrap k hk
    rw [h.previous_eq_iff] at hk
    exact (h.next_eq_iff _ _ _).mpr (hk.back hown hl)
  constructor
  case next_wrap =>
    obtain ⟨k, hk⟩ := ((h.next_eq_iff p true _).mp rfl).exists_ok hl
    exact ⟨k, hk, hnext true k hk⟩
  case previous_wrap =>
    obtain ⟨k, hk⟩ := ((h.previous_eq_iff p true _).mp rfl).exists_ok hl
    exact ⟨k, hk, hprevious true k hk⟩
  case next => exact hnext false
  case previous => exact hprevious false

/-- **Steps.** After every sequence of changes, a step forward or backward in a stream comes to the
one result that it leads to: that there are no locations, or no more of them, or else the first
location beyond the cursor, or with wrapping the first one of all if none is beyond. Where the
locations of the stream stand at their own positions, steps from them are undone by steps in the
other direction. -/
theorem steps_lead_on_and_return (changes : List Change) :
    let index := changes.foldl apply {}
    ∀ s,
      (∀ cursor wrap result,
        (index.next s cursor wrap = result ↔
            (index.stream s).LeadsTo (· < ·) wrap cursor result) ∧
          (index.previous s cursor wrap = result ↔
            (index.stream s).LeadsTo (· > ·) wrap cursor result)) ∧
        ((∀ entry ∈ index.entries s, entry.2.position = entry.1) →
          ∀ p l, index.get? s p = some l → index.StepsReturn s p l) := by
  intro index s
  have h : index.WellFormed := wellFormed_foldl_apply changes
  refine ⟨fun cursor wrap result => ?_, fun hposition p l hl => h.stepsReturn hposition hl⟩
  exact ⟨h.next_eq_iff cursor wrap result, h.previous_eq_iff cursor wrap result⟩

/-- A step from a location at the largest word wraps to the one at zero and is undone, and so is a
step from an only location to itself. -/
theorem step_from_largest_word_returns :
    let last := sampleLocation Text.largest64
    let only := sampleLocation 7
    let changes : List Change := [.store 1 Text.largest64 last, .store 1 0 (sampleLocation 0),
      .store 1 5 (sampleLocation 5), .store 2 7 only]
    let index := changes.foldl apply {}
    index.next 1 Text.largest64 true = .ok (sampleLocation 0) ∧
      index.previous 1 0 true = .ok last ∧
      index.next 2 7 true = .ok only ∧ index.previous 2 7 true = .ok only ∧
      (index.stream 1).LeadsTo (· < ·) false Text.largest64 (.error .noMoreLocations) := by
  intro last only changes index
  obtain ⟨hresults, hreturn⟩ := steps_lead_on_and_return changes 1
  obtain ⟨-, hreturn'⟩ := steps_lead_on_and_return changes 2
  have hnext : index.next 1 Text.largest64 true = .ok (sampleLocation 0) := by decide +kernel
  have hnext' : index.next 2 7 true = .ok only := by decide +kernel
  have hback := hreturn (by decide +kernel) Text.largest64 last (by decide +kernel)
  have hback' := hreturn' (by decide +kernel) 7 only (by decide +kernel)
  refine ⟨hnext, ?_, hnext', ?_, (hresults _ _ _).1.mp (by decide +kernel)⟩
  · obtain ⟨k, hk, hprevious⟩ := hback.next_wrap
    cases hnext.symm.trans hk
    exact hprevious
  · obtain ⟨k, hk, hprevious⟩ := hback'.next_wrap
    cases hnext'.symm.trans hk
    exact hprevious

end LocationIndex

end TraceScan
