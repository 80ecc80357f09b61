import TraceScan.Proofs.Registry.Consistency

/-!
# Registrations one after the other

A registration can be undone by a removal, and two registrations of different names can change
places: the grammars are then tried in the same order, unless the two are of one class and one
priority. Then they stand side by side, and the one that was registered first comes first. A
registration that fails changes nothing, and fails again: `registrations_undo_and_commute`.
-/

namespace TraceScan

/-! ## Sorting with two more elements -/

section InsertionSort

variable {α : Type} (r : α → α → Prop) [DecidableRel r] {x y : α}

/-- Of two more elements that may come in one order only, either may be the last one of a list that
is sorted. -/
theorem insertionSort_append_swap [Std.Total r] (h : ¬ (r x y ∧ r y x)) (l : List α) :
    (l ++ [x, y]).insertionSort r = (l ++ [y, x]).insertionSort r := by
  induction l with
  | nil =>
    -- the relation is total, so that just one of the two orders is sorted
    by_cases hxy : r x y
    · have hyx : ¬ r y x := fun hyx => h ⟨hxy, hyx⟩
      simp [hxy, hyx]
    · have hyx : r y x := (Std.Total.total x y).resolve_left hxy
      simp [hxy, hyx]
  | cons a l ih => simp only [List.cons_append, List.insertionSort_cons, ih]

/-- An insertion leaves two neighbours side by side if the new element stands in one relation to
both, and it does not matter which one comes first. -/
theorem exists_orderedInsert_neighbours {a : α} (h : r a x ↔ r a y) (before after : List α) :
    ∃ before' after',
      (before ++ x :: y :: after).orderedInsert r a = before' ++ x :: y :: after' ∧
        (before ++ y :: x :: after).orderedInsert r a = before' ++ y :: x :: after' := by
  induction before with
  | nil =>
    -- the new element goes in front of both or behind both
    by_cases hax : r a x
    · exact ⟨[a], after, by simp [hax], by simp [h.mp hax]⟩
    · have hay : ¬ r a y := fun hay => hax (h.mpr hay)
      exact ⟨[], after.orderedInsert r a, by simp [hax, hay], by simp [hax, hay]⟩
  | cons b before ih =>
    by_cases hab : r a b
    · exact ⟨a :: b :: before, after, by simp [hab], by simp [hab]⟩
    · obtain ⟨before', after', hxy, hyx⟩ := ih
      exact ⟨b :: before', after', by simp [hab, hxy], by simp [hab, hyx]⟩

/-- Two more elements that may come in either order, and that all others stand in one relation to,
are sorted to neighbours, the one that comes first in the list in front. -/
theorem exists_insertionSort_neighbours (hxy : r x y) (hyx : r y x) (h : ∀ a, r a x ↔ r a y)
    (l : List α) :
    ∃ before after, (l ++ [x, y]).insertionSort r = before ++ x :: y :: after ∧
      (l ++ [y, x]).insertionSort r = before ++ y :: x :: after := by
  induction l with
  | nil => exact ⟨[], [], by simp [hxy], by simp [hyx]⟩
  | cons a l ih =>
    obtain ⟨before, after, hsorted, hswapped⟩ := ih
    simp only [List.cons_append, List.insertionSort_cons, hsorted, hswapped]
    exact exists_orderedInsert_neighbours r (h a) before after

end InsertionSort

namespace Registry

variable {r : Registry}

/-! ## Undoing a registration -/

/-- Removing a grammar that was just registered undoes the registration. -/
theorem WellFormed.unregister?_register {r r' : Registry} (hr : r.WellFormed) {d : Definition}
    (h : r.register d = .ok r') : r'.unregister? (Text.trimmed d.name) = some r := by
  have hr' := hr.register h
  obtain ⟨g, hg, hnew, rfl⟩ := register_eq_ok h
  have hname := (name_of_compile hg).1
  have hold : ∀ k ∈ r.grammars, (k.name != Text.trimmed d.name) = true := by
    intro k hk
    rw [bne_iff_ne]
    intro heq
    rw [contains_eq_true_iff.mpr ⟨k, hk, heq.trans hname.symm⟩] at hnew
    cases hnew
  have hmem : g ∈ r.grammars ++ [g] := List.mem_append_right _ List.mem_cons_self
  have hcontains : ({ r with grammars := r.grammars ++ [g] } : Registry).reorder.contains
      (Text.trimmed d.name) = true :=
    contains_eq_true_iff.mpr ⟨g, hmem, hname⟩
  have hnodup : ((r.grammars ++ [g]).map Grammar.name).Nodup := hr'.names_nodup
  have herase : (r.grammars ++ [g]).eraseP (·.name == Text.trimmed d.name) = r.grammars := by
    rw [eraseP_eq_filter Grammar.name _ hnodup, List.filter_append,
      List.filter_eq_self.mpr hold]
    simp [hname]
  rw [unregister?, if_pos hcontains, Option.some.injEq]
  -- the grammars are the old ones again, and so is the order that they call for
  have horder : r.reorder = r := hr.inOrder
  refine Eq.trans (reorder_congr ?_ ?_) horder
  · exact herase
  · rfl

/-! ## Two registrations -/

/-- Two grammars precede each other when they are of one class and one priority. -/
theorem WellFormed.precedes_each_other_iff (hr : r.WellFormed) {g h : Grammar} :
    r.precedes g h = true ∧ r.precedes h g = true ↔
      g.grammarClass = h.grammarClass ∧ g.priority = h.priority := by
  rw [precedes_iff, precedes_iff, ← hr.rank_inj]
  omega

/-- All grammars stand in one relation to two of one class and one priority. -/
theorem precedes_congr_right {g h : Grammar} (hclass : g.grammarClass = h.grammarClass)
    (hpriority : g.priority = h.priority) (k : Grammar) :
    r.precedes k g = true ↔ r.precedes k h = true := by
  rw [precedes_iff, precedes_iff, hclass, hpriority]

/-- The orders that two more grammars are tried in, one order for each order of registration. -/
theorem WellFormed.ordered_append_pair (hr : r.WellFormed) (g h : Grammar) :
    let gh := ({ r with grammars := r.grammars ++ [g, h] } : Registry).reorder.ordered
    let hg := ({ r with grammars := r.grammars ++ [h, g] } : Registry).reorder.ordered
    if g.grammarClass = h.grammarClass ∧ g.priority = h.priority then
      ∃ before after, gh = before ++ g :: h :: after ∧ hg = before ++ h :: g :: after
    else gh = hg := by
  intro gh hg
  have hgh : gh = (r.grammars ++ [g, h]).insertionSort fun a b => r.precedes a b = true :=
    ordered_reorder _
  have hhg : hg = (r.grammars ++ [h, g]).insertionSort fun a b => r.precedes a b = true :=
    ordered_reorder _
  rw [hgh, hhg]
  split
  · rename_i hsame
    have heach := hr.precedes_each_other_iff.mpr hsame
    exact exists_insertionSort_neighbours (fun a b => r.precedes a b = true) heach.1 heach.2
      (precedes_congr_right hsame.1 hsame.2) r.grammars
  · rename_i hdiffer
    exact insertionSort_append_swap (fun a b => r.precedes a b = true)
      (fun heach => hdiffer (hr.precedes_each_other_iff.mp heach)) r.grammars

/-- A second registration adds its grammar behind the first one, if the names differ. -/
theorem register_register {d e : Definition} {g h : Grammar} {rd : Registry}
    (hd : r.register d = .ok rd) (hg : Grammar.compile d = .ok g) (hh : Grammar.compile e = .ok h)
    (hnew : h.name ∉ r.names) (hne : h.name ≠ g.name) :
    rd.register e = .ok { r with grammars := r.grammars ++ [g, h] }.reorder := by
  obtain ⟨g', hg', -, rfl⟩ := register_eq_ok hd
  obtain rfl : g' = g := Except.ok.inj (hg'.symm.trans hg)
  rw [register_of_compile hh, Except.ok.injEq]
  · exact reorder_congr (List.append_assoc _ _ _) rfl
  · show h.name ∉ (r.grammars ++ [g']).map Grammar.name
    rw [List.map_append, List.mem_append]
    rintro (hmem | hmem)
    · exact hnew hmem
    · exact hne (List.mem_singleton.mp hmem)

/-! ## Registrations -/

/-- **Registrations.** In every reachable registry, removing a grammar that was just registered
leads back to the registry before. Two definitions of different names that can both be registered
can be registered one after the other, in either order, and their grammars and all others are tried
in one order, unless the two are of one class and one priority: then they are neighbours, and change
places. A registration that fails, for a defect of the definition or because the name is taken,
changes nothing, and fails again in the same way. -/
theorem registrations_undo_and_commute (hr : r.Reachable) :
    (∀ d r', r.register d = .ok r' → r'.unregister? (Text.trimmed d.name) = some r) ∧
      (∀ d e rd re, r.register d = .ok rd → r.register e = .ok re →
        Text.trimmed d.name ≠ Text.trimmed e.name →
          ∃ g h rde red, Grammar.compile d = .ok g ∧ Grammar.compile e = .ok h ∧
            rd.register e = .ok rde ∧ re.register d = .ok red ∧
            if d.grammarClass = e.grammarClass ∧ d.priority = e.priority then
              ∃ before after, rde.ordered = before ++ g :: h :: after ∧
                red.ordered = before ++ h :: g :: after
            else rde.ordered = red.ordered) ∧
      ∀ d error, r.register d = .error error →
        r.apply (.register d) = r ∧
          (r.apply (.register d)).register d = .error error ∧
          (Grammar.compile d = .error error ∨
            Text.trimmed d.name ∈ r.names ∧ error = .duplicateName (Text.trimmed d.name)) := by
  have hwf := hr.wellFormed
  refine ⟨fun d r' => hwf.unregister?_register, ?_, ?_⟩
  · intro d e rd re hd he hne
    obtain ⟨g, hg, hgnew, -⟩ := register_eq_ok hd
    obtain ⟨h, hh, hhnew, -⟩ := register_eq_ok he
    rw [← Bool.not_eq_true, contains_eq_true_iff_mem_names] at hgnew hhnew
    have hnames : h.name ≠ g.name := by
      rw [(name_of_compile hg).1, (name_of_compile hh).1]
      exact hne.symm
    refine ⟨g, h, _, _, hg, hh, register_register hd hg hh hhnew hnames,
      register_register he hh hg hgnew hnames.symm, ?_⟩
    have hordered := hwf.ordered_append_pair g h
    rw [(class_of_compile hg).1, (class_of_compile hg).2, (class_of_compile hh).1,
      (class_of_compile hh).2] at hordered
    exact hordered
  · intro d error herror
    have hsame : r.apply (.register d) = r := apply_of_fails ⟨error, herror⟩
    refine ⟨hsame, (congrArg (register · d) hsame).trans herror, ?_⟩
    rcases register_eq_error herror with hdefect | ⟨g, hg, htaken, rfl⟩
    · exact Or.inl hdefect
    · rw [(name_of_compile hg).1] at htaken ⊢
      exact Or.inr ⟨htaken, rfl⟩

/-- A third and a fourth grammar for notes, of one class and one priority, change places with the
order of their registration, and the third one can be removed again. A second grammar of the name of
the first one is refused. -/
theorem third_and_fourth_change_places :
    let third := noteGrammar "third" "three"
    let fourth := noteGrammar " fourth " "four"
    let again := noteGrammar " first " "three"
    ∃ withThird withFourth, notes.register third = .ok withThird ∧
      notes.register fourth = .ok withFourth ∧ withThird.unregister? "third" = some notes ∧
      (∃ g h both both' before after, withThird.register fourth = .ok both ∧
        withFourth.register third = .ok both' ∧ both.ordered = before ++ g :: h :: after ∧
        both'.ordered = before ++ h :: g :: after) ∧
      ∃ error, notes.register again = .error error ∧ notes.apply (.register again) = notes := by
  intro third fourth again
  have hnames : Text.trimmed third.name = "third" ∧ Text.trimmed fourth.name = "fourth" := by
    decide +kernel
  have hregisters : ((notes.register third).toOption.isSome ∧
      (notes.register fourth).toOption.isSome) ∧ (notes.register again).toOption = none := by
    decide +kernel
  obtain ⟨hundo, hcommute, hfails⟩ := registrations_undo_and_commute reachable_notes
  cases hthird : notes.register third with
  | error _ =>
    rw [hthird] at hregisters
    cases hregisters.1.1
  | ok withThird =>
    cases hfourth : notes.register fourth with
    | error _ =>
      rw [hfourth] at hregisters
      cases hregisters.1.2
    | ok withFourth =>
      cases hagain : notes.register again with
      | ok _ =>
        rw [hagain] at hregisters
        cases hregisters.2
      | error error =>
        have hremoved := hundo third withThird hthird
        rw [hnames.1] at hremoved
        obtain ⟨g, h, both, both', -, -, hboth, hboth', hordered⟩ :=
          hcommute third fourth withThird withFourth hthird hfourth
            (by rw [hnames.1, hnames.2]; decide)
        rw [if_pos ⟨rfl, rfl⟩] at hordered
        obtain ⟨before, after, hbefore, hafter⟩ := hordered
        exact ⟨withThird, withFourth, rfl, rfl, hremoved,
          ⟨g, h, both, both', before, after, hboth, hboth', hbefore, hafter⟩,
          error, rfl, (hfails again error hagain).1⟩

end Registry

end TraceScan
