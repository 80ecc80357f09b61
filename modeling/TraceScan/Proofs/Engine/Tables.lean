import TraceScan.Proofs.Engine.Diagnostics
import TraceScan.Proofs.Engine.Grounding
import TraceScan.Proofs.Grammar.Exactness

/-!
# Tables of the built-in grammars

An engine that is set up by default tries the built-in grammars in one order, whatever the width of
its window is. So an exact table that holds them in this order says which of them capture a text
(`EndingCheck.Exact.takenBy`), and from that follows what the engine finds in the text alone
(`matchLine_takenBy`) and in a sequence of lines (`matchInSequence_takenBy`).
-/

namespace TraceScan

/-! ## The built-in grammars -/

namespace Builtin

/-- A table of the built-in grammars in their order has proper names. -/
theorem isNamed_of_map_fst {rows : OwnerTable} (h : rows.map Prod.fst = Registry.defaultOrder) :
    ∀ row ∈ rows, row.1.IsNamed := by
  intro row hrow
  have hmem : row.1 ∈ owners.map Prod.fst := by
    rw [map_fst_owners, ← h]
    exact List.mem_map_of_mem hrow
  obtain ⟨owner, howner, heq⟩ := List.mem_map.mp hmem
  exact heq ▸ isNamed_owners owner howner

/-- No built-in grammar has a hook for paths. -/
theorem resolvePath_eq_none : ∀ d ∈ Registry.defaultOrder, d.resolvePath = none := by
  simp only [Registry.defaultOrder, List.forall_mem_cons, List.not_mem_nil, IsEmpty.forall_iff,
    implies_true, and_true]
  repeat' apply And.intro
  all_goals rfl

/-- Whether some built-in grammars are those that capture a text, in the order in which they are
tried, and capture what is given. -/
structure TakenBy (text : String) (takers : List Definition) (capture : Definition → Capture) :
    Prop where
  mem : ∀ d ∈ takers, d ∈ Registry.defaultOrder
  candidates : ∀ m : Matcher, m.grammars = Registry.defaultOrder.map Definition.grammar →
    m.candidates text = takers.map fun d => (d.grammar, capture d)

end Builtin

/-- An exact table of the built-in grammars says which of them capture a text. -/
theorem EndingCheck.Exact.takenBy {check : EndingCheck} {rows : OwnerTable}
    (hexact : check.Exact rows) (horder : rows.map Prod.fst = Registry.defaultOrder)
    {ending : String} {d : Definition} (hd : d ∈ takersOf rows ending) {text : List Char}
    {capture : Definition → Capture} (hreads : check.Reads ending.toList text capture) :
    Builtin.TakenBy (String.ofList text) (takersOf rows ending) capture where
  mem d hd := by
    obtain ⟨row, hrow, rfl⟩ := List.mem_map.mp hd
    exact horder ▸ List.mem_map_of_mem (List.mem_filter.mp hrow).1
  candidates m hm := by
    refine candidates_eq hexact ?_ hd hreads
    rw [hm, ← horder, List.map_map]
    rfl

/-! ## Locations -/

/-- The location for what a grammar without a hook for paths captures. -/
def Capture.location (capture : Capture) (grammar : String) (home cwd : Option String)
    (text : String) (position : Nat) : Location :=
  { grammar := grammar
    rawPath := capture.path
    path := Path.resolve home cwd capture.path
    line := capture.line
    column := capture.column
    context := capture.context
    position := position
    text := text }

/-- A matcher locates what a built-in grammar captures. -/
theorem Matcher.locate_builtin {d : Definition} (hd : d ∈ Registry.defaultOrder) (m : Matcher)
    (capture : Capture) (cwd : Option String) (text : String) (position : Nat) :
    m.locate d.grammar capture cwd text position =
      capture.location d.name m.home cwd text position := by
  have hresolve : d.grammar.resolve m.home cwd capture.path =
      some (Path.resolve m.home cwd capture.path) :=
    Grammar.resolve_of_resolvePath_eq_none (Builtin.resolvePath_eq_none d hd) m.home cwd
      capture.path
  rw [locate, hresolve, Option.getD_some]
  rfl

/-! ## The default engine -/

/-- The width of the window plays no part in the set-up of a registry. -/
theorem Registry.setUp_contextWindow (r : Registry) (w : Nat) :
    r.setUp { contextWindow := w } = r.setUp {} := by
  rw [setUp, setUp]

namespace Engine

/-- An engine that is set up by default, but for its window, tries the built-in grammars in their
order. -/
theorem grammars_ofConfig (home : Option String) (w : Nat) :
    (ofConfig home { contextWindow := w }).1.matcher.grammars =
      Registry.defaultOrder.map Definition.grammar := by
  rw [matcher, registry_ofConfig, Registry.setUp_contextWindow,
    Registry.ordered_setUp_default Builtin.readable_all]

/-- A new engine matches with the window of its configuration and the home directory that it is
given. -/
theorem matcher_ofConfig (home : Option String) (config : Config) :
    (ofConfig home config).1.matcher.window = config.contextWindow ∧
      (ofConfig home config).1.matcher.home = home :=
  ⟨rfl, rfl⟩

section Taken

variable {text : String} {takers : List Definition} {capture : Definition → Capture}

/-- A text that is visible as it is gets the location that the first of its grammars finds. -/
theorem matchLine_takenBy (h : Builtin.TakenBy text takers capture) {owner : Definition}
    (howner : takers.head? = some owner) (hvisible : strip text = text) (hne : text ≠ "")
    (home : Option String) (w : Nat) (cwd : Option String) :
    (ofConfig home { contextWindow := w }).1.matchLine text cwd =
      some ((capture owner).location owner.name home cwd text 1) := by
  have hgrammars := grammars_ofConfig home w
  have henabled := enabled_ofConfig home { contextWindow := w }
  obtain ⟨-, hhome⟩ := matcher_ofConfig home { contextWindow := w }
  generalize (ofConfig home { contextWindow := w }).1 = e at hgrammars henabled hhome ⊢
  have hempty : ¬ text.isEmpty = true := by simpa using hne
  rw [matchLine, henabled, if_pos rfl, Matcher.matchLine_eq_head?, hvisible, if_neg hempty,
    h.candidates _ hgrammars, List.head?_map, howner, Option.map_some, Option.map_some,
    Matcher.locate_builtin (h.mem owner (List.mem_of_head? howner)), hhome]

/-- In a sequence, a text gets the location that the grammar finds which is chosen among those that
capture it. -/
theorem matchInSequence_takenBy (h : Builtin.TakenBy text takers capture) (hne : text ≠ "")
    {lines : List String} {i w : Nat} (hline : lines[i]? = some text) {owner : Definition}
    (howner : owner ∈ takers)
    (hchoice :
      Matcher.choose (Window.around lines i w) (takers.map fun d => (d.grammar, capture d)) =
        some (owner.grammar, capture owner)) (home cwd : Option String) (position : Nat) :
    (ofConfig home { contextWindow := w }).1.matcher.matchInSequence lines i cwd position =
      some ((capture owner).location owner.name home cwd text position) := by
  have hgrammars := grammars_ofConfig home w
  obtain ⟨hwindow, hhome⟩ := matcher_ofConfig home { contextWindow := w }
  generalize (ofConfig home { contextWindow := w }).1.matcher = m at hgrammars hwindow hhome ⊢
  rw [m.matchInSequence_eq_choose hline hne, h.candidates m hgrammars, hwindow, hchoice,
    Option.map_some, Matcher.locate_builtin (h.mem owner howner), hhome]

end Taken

/-- What a scan reports for a line is what the line gets in the visible buffer. -/
theorem filter_position_scan {e : Engine} (henabled : e.config.enabled = true)
    (lines : List String) (cwd : Option String) (stream : Option StreamId) (i : Nat) :
    (e.scan lines cwd stream).2.filter (fun l => l.position = i + 1) =
      (e.matcher.matchInSequence (lines.map strip) i cwd (i + 1)).toList := by
  rw [e.scan_snd cwd henabled, e.matcher.filter_position_scan _ (Nat.succ_pos i),
    Nat.succ_sub_one]

end Engine

end TraceScan
