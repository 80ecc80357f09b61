import TraceScan.Engine
import TraceScan.Proofs.Grammar.Ownership
import TraceScan.Proofs.VisibleText

/-!
# Bare diagnostics in the default engine

The built-in grammars share the endings of source files among themselves: the table `owners` says
which of them owns which ending, in the order in which the grammars are tried. That the patterns of
the grammars respect the table is checked by evaluation (`exists_settled`). So an engine that was
set up by default finds in each bare diagnostic the location that it names, for the owner of the
ending (`bare_diagnostics_have_one_owner`).
-/

namespace TraceScan

/-! ## The built-in grammars -/

namespace Builtin

/-- The built-in grammars in the order in which they are tried, each with the endings that it owns
of the paths in bare diagnostics. -/
def owners : OwnerTable :=
  [(kotlin, []),
    (python, ["py", "pyi"]),
    (csharp, []),
    (javascript, ["js", "jsx", "ts", "tsx", "cjs", "mjs", "cts", "mts", "vue", "svelte"]),
    (java, []),
    (go, ["go"]),
    (rust, []),
    (lua, []),
    (ruby, []),
    (php, []),
    (perl, []),
    (elixir, ["ex", "exs"]),
    (erlang, []),
    (swift, []),
    (haskell, []),
    (c, ["c", "h"]),
    (cpp, ["cpp", "cc", "cxx", "c++", "hpp", "hh", "hxx", "h++", "ipp", "tpp", "inl"])]

/-- The table holds the built-in grammars in the order in which they are tried. -/
theorem map_fst_owners : owners.map Prod.fst = Registry.defaultOrder := rfl

/-- Each built-in grammar has rules and a proper name. -/
theorem isNamed_owners : ∀ row ∈ owners, row.1.IsNamed := by
  unfold Definition.IsNamed
  decide +kernel

/-- The endings may stand in paths. -/
theorem isPathChar_owners : ∀ row ∈ owners, ∀ ending ∈ row.2,
    ending.toList.all isPathChar = true := by
  decide +kernel

/-- Characters of paths with an ending of the table behind them are characters of paths. -/
theorem isPathChar_of_mem_path {owner : Definition} {endings : List String}
    (howner : (owner, endings) ∈ owners) {ending : String} (hending : ending ∈ endings)
    {stem : List Char} (hstem : ∀ c ∈ stem, isPathChar c = true) :
    ∀ c ∈ stem ++ '.' :: ending.toList, isPathChar c = true := by
  intro c hc
  rcases List.mem_append.mp hc with hc | hc
  · exact hstem c hc
  rcases List.mem_cons.mp hc with rfl | hc
  · decide
  · exact List.all_eq_true.mp (isPathChar_owners _ howner ending hending) c hc

/-- **The check.** The table of the built-in grammars is settled. -/
theorem exists_settled :
    ∃ spellings, List.Forall₂ Spelling.Of owners spellings ∧ settled owners spellings = true := by
  apply Exists.intro
  apply And.intro
  · -- every text is spelled out, piece by piece where it is put together
    repeat' first
      | exact List.Forall₂.nil
      | apply List.Forall₂.cons
      | apply Spelling.Of.mk (s := ⟨_, _⟩)
      | exact rfl
      | apply spell_append
  · decide +kernel

/-- All built-in grammars can be read. -/
theorem readable_all : ∀ d ∈ all, d.Readable := by
  obtain ⟨spellings, hspelled, hsettled⟩ := exists_settled
  intro d hd
  have hmem : d ∈ owners.map Prod.fst := by
    rw [map_fst_owners]
    exact Registry.mem_defaultOrder hd
  obtain ⟨row, hrow, rfl⟩ := List.mem_map.mp hmem
  exact readable_of_settled hspelled isNamed_owners hsettled row hrow

end Builtin

/-! ## Locations -/

/-- Whether a location is that of a bare diagnostic that belongs to a grammar. -/
structure Location.Names (loc : Location) (owner : Definition) (path : String) (line : Nat)
    (column : Option Nat) : Prop where
  grammar : loc.grammar = owner.name
  rawPath : loc.rawPath = path
  line : loc.line = line
  column : loc.column = column
  context : loc.context = none

variable {ending path line : List Char} {column : Option (List Char)} {n : Nat} {m : Option Nat}

/-- A text without brackets that does not end in a return is visible as it is. -/
theorem strip_ofList {text : List Char} (hbracket : '[' ∉ text)
    (hreturn : text.getLast? ≠ some '\r') : strip (String.ofList text) = String.ofList text := by
  rw [strip, String.toList_ofList, visible_eq_self_iff.mpr]
  refine ⟨?_, hreturn⟩
  -- every control sequence has a bracket
  rintro sequence ⟨parameters, intermediates, final, rfl, -⟩ hpart
  exact hbracket (hpart.subset (by simp))

/-- A text of characters of paths and colons is visible as it is. -/
theorem strip_of_isPathChar_or_colon {text : List Char}
    (h : ∀ c ∈ text, isPathChar c = true ∨ c = ':') :
    strip (String.ofList text) = String.ofList text := by
  have hchars : ∀ c ∈ text, c ≠ '[' ∧ c ≠ '\r' := by
    intro c hc
    rcases h c hc with hpath | rfl
    · constructor <;> (rintro rfl; revert hpath; decide)
    · decide
  refine strip_ofList (fun hmem => (hchars '[' hmem).1 rfl) ?_
  exact fun hlast => (hchars '\r' (List.mem_of_getLast? hlast)).2 rfl

/-- A bare diagnostic is visible as it is. -/
theorem strip_bareText (h : IsBare ending path line column) :
    strip (String.ofList (bareText path line column)) =
      String.ofList (bareText path line column) :=
  strip_of_isPathChar_or_colon fun _ => h.isPathChar_or_colon

namespace Engine

/-- A new engine has the registry that its configuration sets up. -/
theorem registry_ofConfig (home : Option String) (config : Config) :
    (ofConfig home config).1.registry = (({} : Registry).setUp config).1 := rfl

/-- A new engine is switched on where its configuration says so. -/
theorem enabled_ofConfig (home : Option String) (config : Config) :
    (ofConfig home config).1.config.enabled = config.enabled := rfl

/-- By default the grammars are tried in the order of the table. -/
theorem grammars_ofConfig_default (home : Option String) :
    (ofConfig home {}).1.matcher.grammars = Builtin.owners.map fun row => row.1.grammar := by
  rw [matcher, registry_ofConfig, Registry.ordered_setUp_default Builtin.readable_all,
    ← Builtin.map_fst_owners, List.map_map]
  rfl

/-- An engine that was set up by default finds in each bare diagnostic the location that it names,
for the owner of the ending. -/
theorem exists_matchLine_bareText (home cwd : Option String) {owner : Definition}
    {endings : List String} (howner : (owner, endings) ∈ Builtin.owners) {ending : String}
    (hending : ending ∈ endings) (h : IsDiagnostic ending.toList path line column n m) :
    ∃ loc, (ofConfig home {}).1.matchLine (String.ofList (bareText path line column)) cwd =
      some loc ∧ loc.Names owner (String.ofList path) n m := by
  obtain ⟨spellings, hspelled, hsettled⟩ := Builtin.exists_settled
  let text := String.ofList (bareText path line column)
  let matcher := (ofConfig home {}).1.matcher
  have hfind := findSome?_of_settled hspelled Builtin.isNamed_owners hsettled howner hending h
    fun g capture => matcher.locate g capture cwd text 1
  have htext : ¬ text.isEmpty = true := by
    simp [text, bareText]
  have hmatch : (ofConfig home {}).1.matchLine text cwd = matcher.matchLine text cwd :=
    if_pos (enabled_ofConfig home {})
  refine ⟨matcher.locate owner.grammar ⟨String.ofList path, n, m, none⟩ cwd text 1, ?_,
    ⟨rfl, rfl, rfl, rfl, rfl⟩⟩
  rw [hmatch, Matcher.matchLine, strip_bareText h.isBare, grammars_ofConfig_default home]
  exact (if_neg htext).trans hfind

/-- **Owners.** Let the path of a bare diagnostic end in an ending of the table, and consist of
characters of paths otherwise, whichever they are; let the numbers fit into 32 bits. An engine that
was set up by default finds the location with this path and these numbers, and without a context,
for the grammar that owns the ending. -/
theorem bare_diagnostics_have_one_owner (home cwd : Option String) {owner : Definition}
    {endings : List String} (howner : (owner, endings) ∈ Builtin.owners) {ending : String}
    (hending : ending ∈ endings) {stem : String} (hne : stem ≠ "")
    (hstem : ∀ c ∈ stem.toList, isPathChar c = true) {line : String} {n : Nat}
    (hline : Text.IsNumeral line.toList n) (hn : n < UInt32.size) :
    let e := (ofConfig home {}).1
    let path := stem ++ "." ++ ending
    (∃ loc, e.matchLine (path ++ ":" ++ line) cwd = some loc ∧ loc.Names owner path n none) ∧
      ∀ (column : String) (m : Nat), Text.IsNumeral column.toList m → m < UInt32.size →
        ∃ loc, e.matchLine (path ++ ":" ++ line ++ ":" ++ column) cwd = some loc ∧
          loc.Names owner path n (some m) := by
  intro e path
  have hpath : path.toList = stem.toList ++ '.' :: ending.toList := by
    simp [path, String.toList_append]
  have hchars : ∀ c ∈ path.toList, isPathChar c = true := by
    rw [hpath]
    exact Builtin.isPathChar_of_mem_path howner hending hstem
  have hself : String.ofList path.toList = path := String.ofList_toList
  have hfound : ∀ (column : Option (List Char)) (m : Option Nat),
      Option.Rel (fun s k => Text.IsNumeral s k ∧ k < UInt32.size) column m →
        ∃ loc, e.matchLine (path ++ ":" ++ line ++ String.ofList (behindLine column)) cwd =
          some loc ∧ loc.Names owner path n m := by
    intro column m hcolumn
    have hdiagnostic : IsDiagnostic ending.toList path.toList line.toList column n m :=
      ⟨⟨stem.toList, by simpa using hne, hpath⟩, hchars, ⟨hline, hn⟩, hcolumn⟩
    have htext : String.ofList (bareText path.toList line.toList column) =
        path ++ ":" ++ line ++ String.ofList (behindLine column) := by
      rw [← String.toList_inj]
      simp [bareText, String.toList_append]
    obtain ⟨loc, hloc, hnames⟩ := exists_matchLine_bareText home cwd howner hending hdiagnostic
    rw [htext] at hloc
    rw [hself] at hnames
    exact ⟨loc, hloc, hnames⟩
  constructor
  · have hnone : String.ofList (behindLine none) = "" := rfl
    have hplain := hfound none none .none
    rwa [hnone, String.append_empty] at hplain
  · intro column m hm hsmall
    have hsome : String.ofList (behindLine (some column.toList)) = ":" ++ column := by
      rw [← String.toList_inj]
      simp [behindLine, String.toList_append]
    have hnumbered := hfound (some column.toList) (some m) (.some ⟨hm, hsmall⟩)
    rwa [hsome, ← String.append_assoc] at hnumbered

/-- A header whose name holds dots and another ending belongs to C. -/
theorem header_belongs_to_c :
    let e := (ofConfig (some "/home") {}).1
    ∃ loc, e.matchLine "src/x.py.h:7:4294967295" none = some loc ∧
      loc.Names Builtin.c "src/x.py.h" 7 (some 4294967295) := by
  have hrow : (Builtin.c, ["c", "h"]) ∈ Builtin.owners := by
    simp only [Builtin.owners, List.mem_cons, true_or, or_true]
  have hending : "h" ∈ ["c", "h"] := by simp
  have hstem : ∀ c ∈ "src/x.py".toList, isPathChar c = true :=
    List.all_eq_true.mp (by decide +kernel)
  have hline : Text.IsNumeral "7".toList 7 := Text.isNumeral_toString 7
  have hcolumn : Text.IsNumeral "4294967295".toList 4294967295 :=
    Text.isNumeral_toString 4294967295
  exact (bare_diagnostics_have_one_owner (some "/home") none hrow hending (by decide) hstem hline
    (by decide)).2 "4294967295" 4294967295 hcolumn (by decide)

end Engine

end TraceScan
