import Mathlib.Data.List.Nodup
import TraceScan.Proofs.Grammar.Validation
import TraceScan.Proofs.Registry.Order
import TraceScan.Proofs.Text.Trimming

/-!
# Reachable registries

A registry starts empty and is changed by set-ups, registrations, removals, clearing and new orders
of the classes. Whatever the changes, the names in it stay proper and distinct, its order is the one
that its grammars and classes call for, and every class has one place in its class order; this is
`Reachable.wellFormed`, from which later modules take what they need of a registry's history.
-/

namespace TraceScan.Registry

/-! ## Changes -/

/-- A change of a registry. -/
inductive Change where
  | setUp (config : Config)
  | register (d : Definition)
  | unregister (name : String)
  | clear
  | setClassOrder (order : List GrammarClass)

/-- The registry after a change. A definition that cannot be registered and a name that is not
registered leave it as it is. -/
def apply (r : Registry) : Change → Registry
  | .setUp config => (r.setUp config).1
  | .register d => (r.register d).toOption.getD r
  | .unregister name => (r.unregister? name).getD r
  | .clear => r.clear
  | .setClassOrder order => r.setClassOrder order

/-- The registries that changes lead to. -/
inductive Reachable : Registry → Prop where
  | new : Reachable {}
  | step {r : Registry} (change : Change) : Reachable r → Reachable (r.apply change)

/-- What holds of every reachable registry. -/
structure WellFormed (r : Registry) : Prop where
  names_proper : ∀ name ∈ r.names, name ≠ "" ∧ Text.trimmed name = name
  names_nodup : r.names.Nodup
  inOrder : r.InOrder
  classOrder_nodup : r.classOrder.Nodup
  mem_classOrder : ∀ c, c ∈ r.classOrder

/-- Setting the order of a registry makes it well-formed, if its names and classes are. -/
theorem wellFormed_reorder {r : Registry}
    (hproper : ∀ name ∈ r.names, name ≠ "" ∧ Text.trimmed name = name) (hnames : r.names.Nodup)
    (hclasses : r.classOrder.Nodup) (hmem : ∀ c, c ∈ r.classOrder) : r.reorder.WellFormed :=
  ⟨hproper, hnames, r.inOrder_reorder, hclasses, hmem⟩

/-! ## Names and classes -/

/-- The class of the grammar of the given name. -/
def classOf? (r : Registry) (name : String) : Option GrammarClass :=
  (r.find? name).map Grammar.grammarClass

/-- A name is registered when a grammar bears it. -/
theorem contains_eq_true_iff {r : Registry} {name : String} :
    r.contains name = true ↔ ∃ g ∈ r.grammars, g.name = name := by
  simp [contains, find?]

/-- A name is registered when it is one of the names. -/
theorem contains_eq_true_iff_mem_names {r : Registry} {name : String} :
    r.contains name = true ↔ name ∈ r.names := by
  rw [contains_eq_true_iff, names, List.mem_map]

/-- A name leads to the one grammar that bears it. -/
theorem WellFormed.find?_name {r : Registry} (hr : r.WellFormed) {g : Grammar}
    (hg : g ∈ r.grammars) : r.find? g.name = some g := by
  have hsome : (r.find? g.name).isSome := contains_eq_true_iff.mpr ⟨g, hg, rfl⟩
  obtain ⟨h, hh⟩ := Option.isSome_iff_exists.mp hsome
  have hmem : h ∈ r.grammars := List.mem_of_find?_eq_some hh
  have hname : h.name = g.name := by simpa using List.find?_some hh
  rw [hh, List.inj_on_of_nodup_map hr.names_nodup hmem hg hname]

/-- The name of a registered grammar leads to its class. -/
theorem WellFormed.classOf?_name {r : Registry} (hr : r.WellFormed) {g : Grammar}
    (hg : g ∈ r.grammars) : r.classOf? g.name = some g.grammarClass := by
  rw [classOf?, hr.find?_name hg, Option.map_some]

/-- Two classes of the same rank are one class. -/
theorem WellFormed.rank_inj {r : Registry} (hr : r.WellFormed) {c d : GrammarClass} :
    r.rank c = r.rank d ↔ c = d :=
  List.idxOf_inj (hr.mem_classOrder c)

/-! ## Registration -/

/-- A grammar bears the name of its definition without the blanks around it. Something is left. -/
theorem name_of_compile {d : Definition} {g : Grammar} (h : Grammar.compile d = .ok g) :
    g.name = Text.trimmed d.name ∧ Text.trimmed d.name ≠ "" := by
  obtain ⟨hsound, hdefinition⟩ := Grammar.sound_of_compile h
  exact ⟨by rw [Grammar.name, hdefinition], hsound.name⟩

/-- A grammar has the class and the priority of its definition. -/
theorem class_of_compile {d : Definition} {g : Grammar} (h : Grammar.compile d = .ok g) :
    g.grammarClass = d.grammarClass ∧ g.priority = d.priority := by
  rw [Grammar.grammarClass, Grammar.priority, (Grammar.sound_of_compile h).2]
  exact ⟨rfl, rfl⟩

/-- A registration adds a grammar with a new name behind the others, or fails. -/
theorem register_eq_ok {r r' : Registry} {d : Definition} (h : r.register d = .ok r') :
    ∃ g, Grammar.compile d = .ok g ∧ r.contains g.name = false ∧
      r' = { r with grammars := r.grammars ++ [g] }.reorder := by
  unfold register at h
  cases hg : Grammar.compile d with
  | error e => simp [hg, bind, Except.bind] at h
  | ok g =>
    by_cases hc : r.contains g.name = true
    · simp [hg, bind, Except.bind, hc, throw, throwThe, MonadExceptOf.throw] at h
    · simp only [hg, bind, Except.bind, hc, pure, Except.pure] at h
      cases h
      exact ⟨g, rfl, by simpa using hc, rfl⟩

/-- A definition that can be read and has a new name is registered. -/
theorem register_of_compile {r : Registry} {d : Definition} {g : Grammar}
    (hg : Grammar.compile d = .ok g) (hnew : g.name ∉ r.names) :
    r.register d = .ok { r with grammars := r.grammars ++ [g] }.reorder := by
  have hcontains : r.contains g.name = false := by
    rwa [← Bool.not_eq_true, contains_eq_true_iff_mem_names]
  unfold register
  rw [hg]
  simp [bind, Except.bind, pure, Except.pure, hcontains]

/-- A registration keeps a registry well-formed. -/
theorem WellFormed.register {r r' : Registry} (hr : r.WellFormed) {d : Definition}
    (h : r.register d = .ok r') : r'.WellFormed := by
  obtain ⟨g, hg, hnew, rfl⟩ := register_eq_ok h
  obtain ⟨hname, hne⟩ := name_of_compile hg
  refine wellFormed_reorder ?_ ?_ hr.classOrder_nodup hr.mem_classOrder
  · intro name hmem
    rw [names, List.map_append, List.mem_append] at hmem
    rcases hmem with hmem | hmem
    · exact hr.names_proper name hmem
    · obtain rfl : name = g.name := by simpa using hmem
      rw [hname]
      exact ⟨hne, Text.trimmed_trimmed d.name⟩
  · rw [names, List.map_append, List.nodup_append]
    refine ⟨hr.names_nodup, by simp, ?_⟩
    rintro name hname _ hg rfl
    obtain ⟨k, hk, rfl⟩ := List.mem_map.mp hname
    have hkg : k.name = g.name := by simpa using hg
    rw [contains_eq_true_iff.mpr ⟨k, hk, hkg⟩] at hnew
    cases hnew

/-! ## Removal -/

/-- Where no two elements share a key, erasing the first one with a key erases all of them. -/
theorem eraseP_eq_filter {α : Type} (key : α → String) (k : String) {l : List α}
    (hl : (l.map key).Nodup) : l.eraseP (key · == k) = l.filter (key · != k) := by
  induction l with
  | nil => rfl
  | cons a l ih =>
    rw [List.map_cons, List.nodup_cons] at hl
    by_cases ha : key a = k
    · have hrest : ∀ b ∈ l, (key b != k) = true := by
        intro b hb
        have hne : key b ≠ key a := fun hba => hl.1 (hba ▸ List.mem_map_of_mem hb)
        simpa [ha] using hne
      rw [List.eraseP_cons_of_pos (by simp [ha]), List.filter_cons_of_neg (by simp [ha]),
        List.filter_eq_self.mpr hrest]
    · rw [List.eraseP_cons_of_neg (by simp [ha]), List.filter_cons_of_pos (by simp [ha]),
        ih hl.2]

/-- A removal leaves the grammars of other names. -/
theorem WellFormed.unregister?_eq_some {r r' : Registry} (hr : r.WellFormed) {name : String}
    (h : r.unregister? name = some r') :
    r' = { r with grammars := r.grammars.filter (·.name != name) }.reorder := by
  unfold unregister? at h
  split at h
  · cases h
    rw [eraseP_eq_filter Grammar.name name hr.names_nodup]
  · cases h

/-- Taking grammars away keeps a registry well-formed. -/
theorem WellFormed.filter {r : Registry} (hr : r.WellFormed) (p : Grammar → Bool) :
    ({ r with grammars := r.grammars.filter p } : Registry).reorder.WellFormed := by
  have hsub : ((r.grammars.filter p).map Grammar.name).Sublist r.names :=
    List.filter_sublist.map Grammar.name
  exact wellFormed_reorder (fun name hname => hr.names_proper name (hsub.mem hname))
    (hr.names_nodup.sublist hsub) hr.classOrder_nodup hr.mem_classOrder

/-! ## Orders of classes -/

/-- Adding the classes of a list keeps those that were there and adds those that were not. -/
theorem mem_foldl_addClass (order found : List GrammarClass) (c : GrammarClass) :
    c ∈ order.foldl (fun found c => if found.contains c then found else found ++ [c]) found ↔
      c ∈ found ∨ c ∈ order := by
  induction order generalizing found with
  | nil => simp
  | cons d order ih =>
    rw [List.foldl_cons, ih]
    by_cases hd : d ∈ found
    · rw [if_pos (by simpa using hd), List.mem_cons]
      -- the class is there already, so that it adds nothing
      constructor
      · rintro (h | h)
        · exact Or.inl h
        · exact Or.inr (Or.inr h)
      · rintro (h | rfl | h)
        · exact Or.inl h
        · exact Or.inl hd
        · exact Or.inr h
    · rw [if_neg (by simpa using hd), List.mem_append, List.mem_singleton, List.mem_cons, or_assoc]

/-- Every class has a place in an effective order. -/
theorem mem_effectiveOrder (order : List GrammarClass) (c : GrammarClass) :
    c ∈ effectiveOrder order := by
  rw [effectiveOrder, mem_foldl_addClass]
  cases c <;> simp

/-- Adding the classes of a list that are not there yet repeats none. -/
theorem nodup_foldl_addClass (order : List GrammarClass) {found : List GrammarClass}
    (h : found.Nodup) :
    (order.foldl (fun found c => if found.contains c then found else found ++ [c])
      found).Nodup := by
  induction order generalizing found with
  | nil => exact h
  | cons c order ih =>
    rw [List.foldl_cons]
    apply ih
    by_cases hc : c ∈ found
    · rwa [if_pos (by simpa using hc)]
    · rw [if_neg (by simpa using hc)]
      exact List.nodup_append.mpr ⟨h, by simp, by rintro a ha _ hb rfl; simp_all⟩

/-- No class has two places in an effective order. -/
theorem nodup_effectiveOrder (order : List GrammarClass) : (effectiveOrder order).Nodup :=
  nodup_foldl_addClass _ List.nodup_nil

/-! ## Set-up -/

/-- Loading a grammar keeps a registry well-formed, whether or not the grammar is registered. -/
theorem WellFormed.load {state : Registry × SetupReport} (h : state.1.WellFormed) (name : String)
    (d : Definition) : (Registry.load state name d).1.WellFormed := by
  unfold Registry.load
  split
  · exact h.register ‹_›
  · exact h

/-- Loading a built-in grammar keeps a registry well-formed. -/
theorem WellFormed.loadBuiltin {state : Registry × SetupReport} (h : state.1.WellFormed)
    (language : String) : (Registry.loadBuiltin state language).1.WellFormed := by
  unfold Registry.loadBuiltin
  split
  · exact h.load language _
  · exact h

/-- Loading grammars one after the other keeps a registry well-formed. -/
theorem wellFormed_foldl {α : Type} {f : Registry × SetupReport → α → Registry × SetupReport}
    (hf : ∀ state a, state.1.WellFormed → (f state a).1.WellFormed) (as : List α)
    {state : Registry × SetupReport} (h : state.1.WellFormed) :
    (as.foldl f state).1.WellFormed := by
  induction as generalizing state with
  | nil => exact h
  | cons a as ih => exact ih (hf state a h)

/-- A registry without grammars is well-formed, if its classes are. -/
theorem wellFormed_of_grammars_nil {r : Registry} (hgrammars : r.grammars = [])
    (horder : r.order = []) (hclasses : r.classOrder.Nodup) (hmem : ∀ c, c ∈ r.classOrder) :
    r.WellFormed := by
  obtain ⟨grammars, order, classOrder⟩ := r
  subst hgrammars horder
  exact ⟨by simp [names], List.nodup_nil, rfl, hclasses, hmem⟩

/-- A set-up gives a well-formed registry. -/
theorem wellFormed_setUp (r : Registry) (config : Config) : (r.setUp config).1.WellFormed := by
  have hempty : ({ r.clear with classOrder := effectiveOrder config.classOrder } :
      Registry).WellFormed :=
    wellFormed_of_grammars_nil rfl rfl (nodup_effectiveOrder _) (mem_effectiveOrder _)
  unfold setUp
  apply wellFormed_foldl
  · intro state d h
    exact h.load d.name _
  · exact wellFormed_foldl (fun state language h => h.loadBuiltin language) _ hempty

/-! ## All changes -/

/-- Every change keeps a registry well-formed. -/
theorem WellFormed.apply {r : Registry} (hr : r.WellFormed) (change : Change) :
    (r.apply change).WellFormed := by
  cases change with
  | setUp config => exact wellFormed_setUp r config
  | register d =>
    rw [Registry.apply]
    cases h : r.register d with
    | error e => exact hr
    | ok r' => exact hr.register h
  | unregister name =>
    rw [Registry.apply]
    cases h : r.unregister? name with
    | none => exact hr
    | some r' =>
      rw [Option.getD_some, hr.unregister?_eq_some h]
      exact hr.filter _
  | clear => exact wellFormed_of_grammars_nil rfl rfl hr.classOrder_nodup hr.mem_classOrder
  | setClassOrder order =>
    exact wellFormed_reorder hr.names_proper hr.names_nodup (nodup_effectiveOrder order)
      (mem_effectiveOrder order)

/-- **Well-formedness.** In every reachable registry the names are proper and distinct, the order is
the one that the grammars and classes call for, and every class has one place in the class order. -/
theorem Reachable.wellFormed {r : Registry} (h : r.Reachable) : r.WellFormed := by
  induction h with
  | new => exact wellFormed_of_grammars_nil rfl rfl (by decide) (by intro c; cases c <;> simp)
  | step change _ ih => exact ih.apply change

/-! ## A registry of notes -/

/-- A grammar for notes such as `todo:8`. It claims the notes behind a line that is its cue. -/
def noteGrammar (name cue : String) : Definition where
  name := name
  rules := [.of r"(\w+):(\d+)" 1 2]
  isCustom := true
  contextMatch := some fun window index => window[index - 1]? == some cue

/-- A registry with two grammars for notes, of which the first one leads. -/
def notes : Registry :=
  ({} : Registry).apply (.register (noteGrammar "first" "one"))
    |>.apply (.register (noteGrammar "second" "two"))

/-- The registry of notes is reachable. -/
theorem reachable_notes : notes.Reachable :=
  .step _ (.step _ .new)

end TraceScan.Registry
