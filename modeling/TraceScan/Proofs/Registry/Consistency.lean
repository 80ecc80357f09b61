import TraceScan.Proofs.Registry.Reachable

/-!
# What every history of a registry keeps

A registry keeps the order in which its grammars are tried beside the grammars, as a list of their
places, and has to set it anew whenever a grammar comes or goes or the classes change their order.
After every history of changes the two lists fit together, and the names and the classes are as they
should be: `changes_keep_consistent`. A change that fails changes nothing.
-/

namespace TraceScan.Registry

variable {r : Registry}

/-! ## Changes that fail -/

/-- Whether a change cannot be made: the definition is refused, or no grammar bears the name. -/
def Change.Fails (r : Registry) : Change → Prop
  | .register d => ∃ error, r.register d = .error error
  | .unregister name => r.unregister? name = none
  | .setUp _ | .clear | .setClassOrder _ => False

/-- A registration fails when the definition cannot be read or its name is taken. -/
theorem fails_register_iff {d : Definition} :
    (Change.register d).Fails r ↔
      (∃ error, Grammar.compile d = .error error) ∨ Text.trimmed d.name ∈ r.names := by
  rw [Change.Fails, ← contains_eq_true_iff_mem_names]
  cases hg : Grammar.compile d with
  | error e =>
    refine iff_of_true ⟨e, ?_⟩ (Or.inl ⟨e, rfl⟩)
    simp [register, hg, bind, Except.bind]
  | ok g =>
    rw [← (name_of_compile hg).1]
    by_cases hc : r.contains g.name = true
    · refine iff_of_true ⟨.duplicateName g.name, ?_⟩ (Or.inr hc)
      simp [register, hg, hc, bind, Except.bind, throw, throwThe, MonadExceptOf.throw]
    · refine iff_of_false ?_ (by simp [hc])
      simp [register, hg, hc, bind, Except.bind, pure, Except.pure]

/-- A registration fails with the defect of the definition, or because its name is taken. -/
theorem register_eq_error {r : Registry} {d : Definition} {error : RegistrationError}
    (h : r.register d = .error error) :
    Grammar.compile d = .error error ∨
      ∃ g, Grammar.compile d = .ok g ∧ g.name ∈ r.names ∧ error = .duplicateName g.name := by
  unfold register at h
  cases hg : Grammar.compile d with
  | error e =>
    rw [hg] at h
    cases h
    exact Or.inl rfl
  | ok g =>
    by_cases hc : r.contains g.name = true
    · simp only [hg, bind, Except.bind, hc, if_true, throw, throwThe, MonadExceptOf.throw] at h
      cases h
      exact Or.inr ⟨g, rfl, contains_eq_true_iff_mem_names.mp hc, rfl⟩
    · simp [hg, bind, Except.bind, hc, pure, Except.pure] at h

/-- A change that fails leaves the registry as it is. -/
theorem apply_of_fails {change : Change} (h : change.Fails r) : r.apply change = r := by
  cases change with
  | register d =>
    obtain ⟨error, herror⟩ := h
    rw [apply, herror]
    rfl
  | unregister name =>
    have hnone : r.unregister? name = none := h
    rw [apply, hnone, Option.getD_none]
  | setUp config => exact h.elim
  | clear => exact h.elim
  | setClassOrder order => exact h.elim

/-- What a set-up loads is registered like any other grammar. -/
theorem load_fst (state : Registry × SetupReport) (name : String) (d : Definition) :
    (load state name d).1 = state.1.apply (.register d) := by
  rw [load, apply]
  cases state.1.register d <;> rfl

/-! ## Grammars and their places -/

/-- What holds of a registry at all times. -/
structure Consistent (r : Registry) : Prop where
  /-- No name is empty, and none has blanks around it. -/
  names_proper : ∀ name ∈ r.names, name ≠ "" ∧ Text.trimmed name = name
  /-- No two grammars bear the same name. -/
  names_nodup : r.names.Nodup
  /-- The order holds the place of every grammar once, and nothing else. -/
  order_perm : r.order.Perm (List.range r.grammars.length)
  /-- The grammars that are tried are those at the places of the order, none left out. -/
  ordered_eq : r.ordered.map some = r.order.map (r.grammars[·]?)
  /-- The grammars that are tried are the registered ones, each once. -/
  ordered_perm : r.ordered.Perm r.grammars
  /-- The places are sorted by class, then by falling priority, then by registration. -/
  order_sorted : r.order.Pairwise r.TriedBefore
  /-- Every class has one place in the order of the classes. -/
  classes_once : ∀ c, r.classOrder.count c = 1

/-- Where no place of the order lies behind the grammars, no grammar is left out. -/
theorem map_some_ordered (h : ∀ i ∈ r.order, i < r.grammars.length) :
    r.ordered.map some = r.order.map (r.grammars[·]?) := by
  rw [ordered, List.map_filterMap_some_eq_filter_map_isSome, List.filter_eq_self]
  intro g hg
  obtain ⟨i, hi, rfl⟩ := List.mem_map.mp hg
  rw [List.getElem?_eq_getElem (h i hi)]
  rfl

/-- A well-formed registry is consistent. -/
theorem WellFormed.consistent (hr : r.WellFormed) : r.Consistent where
  names_proper := hr.names_proper
  names_nodup := hr.names_nodup
  order_perm := hr.inOrder.perm_order
  ordered_eq := by
    apply map_some_ordered
    intro i hi
    exact List.mem_range.mp (hr.inOrder.perm_order.mem_iff.mp hi)
  ordered_perm := hr.inOrder.perm_ordered
  order_sorted := hr.inOrder.pairwise_order
  classes_once c := List.count_eq_one_of_mem hr.classOrder_nodup (hr.mem_classOrder c)

/-! ## Histories -/

/-- Every history of changes leads to a reachable registry. -/
theorem reachable_foldl_apply (hr : r.Reachable) (changes : List Change) :
    (changes.foldl apply r).Reachable := by
  induction changes generalizing r with
  | nil => exact hr
  | cons change changes ih => exact ih (.step change hr)

/-- **Consistency.** After every history of set-ups, registrations, removals, clearings and orders
of the classes, whatever their arguments, the registry is consistent. One more change leaves the
names, the matching order and the order of the classes as they are if it fails, and so does a
registration that fails within a set-up. -/
theorem changes_keep_consistent (changes : List Change) :
    let r := changes.foldl apply {}
    r.Consistent ∧
      (∀ change : Change, change.Fails r →
        (r.apply change).names = r.names ∧ (r.apply change).ordered = r.ordered ∧
          (r.apply change).classOrder = r.classOrder) ∧
      ∀ d, (Change.register d).Fails r → ∀ report name, (load (r, report) name d).1 = r := by
  intro r
  have hr : r.Reachable := reachable_foldl_apply .new changes
  refine ⟨hr.wellFormed.consistent, ?_, ?_⟩
  · intro change hfails
    rw [apply_of_fails hfails]
    exact ⟨rfl, rfl, rfl⟩
  · intro d hfails report name
    rw [load_fst, apply_of_fails hfails]

/-- A second grammar of a name, with blanks around it, is refused and changes nothing. -/
theorem second_first_changes_nothing :
    let r := [.register (noteGrammar "first" "one"),
      .register (noteGrammar "second" "two")].foldl apply {}
    let again := Change.register (noteGrammar " first " "two")
    again.Fails r ∧ (r.apply again).names = r.names ∧ r.names = ["first", "second"] := by
  intro r again
  have hnames : r.names = ["first", "second"] := by decide +kernel
  have htaken : Text.trimmed (noteGrammar " first " "two").name ∈ r.names := by
    rw [hnames]
    decide +kernel
  have hfails : again.Fails r := fails_register_iff.mpr (Or.inr htaken)
  have hkeeps := (changes_keep_consistent [.register (noteGrammar "first" "one"),
    .register (noteGrammar "second" "two")]).2.1 again hfails
  exact ⟨hfails, hkeeps.1, hnames⟩

/-- A removal shifts the places, and a new order of the classes turns them round. -/
example :
    let builtin := { noteGrammar "third" "three" with isCustom := false }
    let r := [.register builtin, .register (noteGrammar "first" "one"),
      .register (noteGrammar "second" "two"),
      .register { builtin with name := "fourth", priority := 1 }].foldl apply {}
    let without := r.apply (.unregister "first")
    r.order = [1, 2, 3, 0] ∧ without.order = [1, 2, 0] ∧
      (without.apply (.setClassOrder [.builtin])).order = [2, 0, 1] := by
  decide +kernel

end TraceScan.Registry
