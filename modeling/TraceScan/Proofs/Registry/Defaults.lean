import TraceScan.Proofs.Registry.Reachable

/-!
# The registry that is set up by default

The default configuration loads all built-in grammars. Where their definitions can be read, nothing
is skipped, and they are tried in the order of their table but for Kotlin, whose priority puts it in
front of the others: `ordered_setUp_default`.
-/

namespace TraceScan

/-- The rules of a definition, none if it cannot be read. -/
def Definition.compiledRules (d : Definition) : List CompiledRule :=
  match Grammar.compile d with
  | .ok g => g.rules
  | .error _ => []

/-- A definition with its rules. -/
def Definition.grammar (d : Definition) : Grammar :=
  ⟨d, d.compiledRules⟩

/-- The rules of a definition with its rules. -/
theorem Definition.rules_grammar (d : Definition) : d.grammar.rules = d.compiledRules := by
  rw [grammar]

/-- Whether a definition can be read, and bears its name without blanks around it. -/
def Definition.Readable (d : Definition) : Prop :=
  Grammar.compile d = .ok d.grammar

/-- A definition that is read as itself with some rules is readable, and has these rules. -/
theorem Definition.readable_of_compile {d : Definition} {rules : List CompiledRule}
    (h : Grammar.compile d = .ok ⟨d, rules⟩) : d.Readable ∧ d.compiledRules = rules := by
  have hrules : d.compiledRules = rules := by
    rw [compiledRules, h]
  rw [Readable, grammar, hrules]
  exact ⟨h, rfl⟩

namespace Builtin

/-- No two built-in grammars bear one name. -/
theorem nodup_names : names.Nodup := by
  decide +kernel

/-- The name of a built-in grammar leads to it. -/
theorem find?_name {d : Definition} (hd : d ∈ all) : find? d.name = some d := by
  have hsome : (find? d.name).isSome := by
    rw [find?, List.find?_isSome]
    exact ⟨d, hd, by simp⟩
  obtain ⟨d', hd'⟩ := Option.isSome_iff_exists.mp hsome
  have hmem : d' ∈ all := List.mem_of_find?_eq_some hd'
  have hname : d'.name = d.name := by simpa using List.find?_some hd'
  have hnodup : (all.map Definition.name).Nodup := by
    rw [map_name_all]
    exact nodup_names
  rw [hd', List.inj_on_of_nodup_map hnodup hmem hd hname]

end Builtin

namespace Registry

/-- A readable definition with a new name is registered. -/
theorem register_of_readable {r : Registry} {d : Definition} (h : d.Readable)
    (hnew : d.name ∉ r.names) :
    r.register d = .ok { r with grammars := r.grammars ++ [d.grammar] }.reorder :=
  register_of_compile h hnew

/-- Loading built-in grammars that can be read and are new registers all of them. -/
theorem foldl_loadBuiltin {ds : List Definition} (hds : ∀ d ∈ ds, d ∈ Builtin.all ∧ d.Readable)
    (state : Registry × SetupReport) (hnodup : (state.1.names ++ ds.map Definition.name).Nodup) :
    let loaded := ((ds.map Definition.name).foldl loadBuiltin state).1
    loaded.grammars = state.1.grammars ++ ds.map Definition.grammar ∧
      loaded.classOrder = state.1.classOrder := by
  induction ds generalizing state with
  | nil => exact ⟨(List.append_nil _).symm, rfl⟩
  | cons d ds ih =>
    obtain ⟨⟨hd, hreadable⟩, hds⟩ := List.forall_mem_cons.mp hds
    have hnew : d.name ∉ state.1.names := by
      intro hmem
      rw [List.map_cons] at hnodup
      exact (List.nodup_append.mp hnodup).2.2 _ hmem _ List.mem_cons_self rfl
    let next : Registry := { state.1 with grammars := state.1.grammars ++ [d.grammar] }.reorder
    have hload : (loadBuiltin state d.name).1 = next := by
      simp only [loadBuiltin, Builtin.find?_name hd, load, register_of_readable hreadable hnew]
      rfl
    have hnames : (loadBuiltin state d.name).1.names = state.1.names ++ [d.name] := by
      rw [hload]
      exact List.map_append
    have hrest := ih hds (loadBuiltin state d.name)
      (by rwa [hnames, List.append_assoc, List.singleton_append, ← List.map_cons])
    rw [hload] at hrest
    obtain ⟨hgrammars, hclasses⟩ := hrest
    rw [List.map_cons, List.foldl_cons, List.map_cons]
    refine ⟨hgrammars.trans ?_, hclasses⟩
    show (state.1.grammars ++ [d.grammar]) ++ ds.map Definition.grammar = _
    rw [List.append_assoc, List.singleton_append]

/-- Sorting moves the one element that precedes all others in front of them. -/
theorem insertionSort_first {α : Type} {r : α → α → Prop} [DecidableRel r] (first : α)
    (before after : List α) (hbefore : ∀ a ∈ before, ¬ r a first) (hafter : ∀ a ∈ after, r first a)
    (hothers : ∀ a ∈ before ++ after, ∀ b ∈ before ++ after, r a b) :
    (before ++ first :: after).insertionSort r = first :: (before ++ after) := by
  induction before with
  | nil =>
    refine List.Pairwise.insertionSort_eq (List.pairwise_cons.mpr ⟨hafter, ?_⟩)
    exact List.pairwise_iff_getElem.mpr fun i j _ _ _ =>
      hothers _ (List.getElem_mem _) _ (List.getElem_mem _)
  | cons a before ih =>
    obtain ⟨ha, hbefore⟩ := List.forall_mem_cons.mp hbefore
    have hsub : ∀ b ∈ before ++ after, b ∈ a :: before ++ after := fun b hb =>
      List.mem_cons_of_mem a hb
    rw [List.cons_append, List.insertionSort_cons,
      ih hbefore (fun b hb c hc => hothers b (hsub b hb) c (hsub c hc)), List.orderedInsert_cons,
      if_neg ha, orderedInsert_eq_cons r fun b hb => hothers a List.mem_cons_self b (hsub b hb),
      List.cons_append]

open Builtin in
/-- The built-in grammars in the order in which they are tried by default. -/
def defaultOrder : List Definition :=
  [kotlin, python, csharp, javascript, java, go, rust, lua, ruby, php, perl, elixir, erlang, swift,
    haskell, c, cpp]

/-- All built-in grammars are tried by default. -/
theorem mem_defaultOrder {d : Definition} (hd : d ∈ Builtin.all) : d ∈ defaultOrder := by
  have hall : Builtin.all = Builtin.all.take 13 ++ Builtin.kotlin :: Builtin.all.drop 14 := rfl
  have horder : defaultOrder = Builtin.kotlin :: (Builtin.all.take 13 ++ Builtin.all.drop 14) := rfl
  rw [hall, List.mem_append, List.mem_cons] at hd
  rw [horder, List.mem_cons, List.mem_append]
  tauto

/-- The order of built-in grammars depends on their definitions only. -/
theorem insertionSort_grammar (r : Registry) (ds : List Definition) :
    (ds.map Definition.grammar).insertionSort (fun g h => r.precedes g h = true) =
      (ds.insertionSort fun d d' => r.precedes d.grammar d'.grammar = true).map
        Definition.grammar :=
  (List.map_insertionSort _ _ Definition.grammar _ fun _ _ _ _ => Iff.rfl).symm

/-- **Defaults.** Set up with the default configuration, a registry tries all built-in grammars,
Kotlin first. -/
theorem ordered_setUp_default (hreadable : ∀ d ∈ Builtin.all, d.Readable) (r : Registry) :
    (r.setUp {}).1.ordered = defaultOrder.map Definition.grammar := by
  let empty : Registry := { r.clear with classOrder := effectiveOrder [.custom, .builtin] }
  have hsetUp : (r.setUp {}).1 = (Builtin.names.foldl loadBuiltin (empty, {})).1 := by
    rw [setUp, List.foldl_nil]
    rfl
  have hnames : empty.names = [] := rfl
  have hnodup : (empty.names ++ Builtin.all.map Definition.name).Nodup := by
    rw [hnames, List.nil_append, Builtin.map_name_all]
    exact Builtin.nodup_names
  have hloaded := foldl_loadBuiltin (fun d hd => ⟨hd, hreadable d hd⟩) (empty, {}) hnodup
  rw [Builtin.map_name_all, ← hsetUp] at hloaded
  obtain ⟨hgrammars, hclasses⟩ := hloaded
  have hempty : empty.grammars = [] := rfl
  rw [hempty, List.nil_append] at hgrammars
  replace hclasses : (r.setUp {}).1.classOrder = [.custom, .builtin] := hclasses
  rw [(r.wellFormed_setUp {}).inOrder.ordered_eq_insertionSort, hgrammars, insertionSort_grammar]
  refine congrArg (List.map Definition.grammar) ?_
  have hprecedes : ∀ {d d' : Definition}, d.isCustom = false → d'.isCustom = false →
      ((r.setUp {}).1.precedes d.grammar d'.grammar = true ↔ d'.priority ≤ d.priority) := by
    intro d d' hd hd'
    simp [precedes_iff, Grammar.grammarClass, Definition.grammarClass, Grammar.priority,
      Definition.grammar, hd, hd']
  refine insertionSort_first Builtin.kotlin (Builtin.all.take 13) (Builtin.all.drop 14) ?_ ?_ ?_
  · intro d hd
    have hd' : d.isCustom = false ∧ d.priority = 0 := by revert d; decide
    rw [hprecedes hd'.1 rfl, hd'.2]
    decide
  · intro d hd
    have hd' : d.isCustom = false ∧ d.priority = 0 := by revert d; decide
    rw [hprecedes rfl hd'.1, hd'.2]
    decide
  · intro d hd d' hd'
    have hplain : ∀ d ∈ Builtin.all.take 13 ++ Builtin.all.drop 14,
        d.isCustom = false ∧ d.priority = 0 := by decide
    rw [hprecedes (hplain d hd).1 (hplain d' hd').1, (hplain d hd).2, (hplain d' hd').2]

end Registry

end TraceScan
