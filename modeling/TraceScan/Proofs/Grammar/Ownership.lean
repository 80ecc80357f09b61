import TraceScan.Proofs.Grammar.Reading
import TraceScan.Proofs.Pattern.Diagnostics
import TraceScan.Proofs.Registry.Defaults
import TraceScan.Proofs.Text.Trimming

/-!
# The owners of bare diagnostics

A bare diagnostic belongs to the grammar that owns the ending of its path. Grammars are tried one
after the other, and nothing but the ending is known of the path; so each of them has to refuse all
endings that a later grammar owns, and to take apart the diagnostics with its own. That can be
evaluated for a table of grammars with their endings (`settled`), and says for all paths and numbers
which of them is the first one to capture a bare diagnostic (`findSome?_of_settled`).
-/

namespace TraceScan

variable {ending path line : List Char} {column : Option (List Char)} {n : Nat}
  {m : Option Nat}

/-! ## Rules -/

/-- What a bare diagnostic is with its numbers. They fit into 32 bits. -/
structure IsDiagnostic (ending path line : List Char) (column : Option (List Char)) (n : Nat)
    (m : Option Nat) : Prop where
  stem : ∃ stem, stem ≠ [] ∧ path = stem ++ '.' :: ending
  path : ∀ c ∈ path, isPathChar c = true
  line : Text.IsNumeral line n ∧ n < UInt32.size
  column : Option.Rel (fun s k => Text.IsNumeral s k ∧ k < UInt32.size) column m

/-- Without the numbers it is a bare diagnostic. -/
theorem IsDiagnostic.isBare (h : IsDiagnostic ending path line column n m) :
    IsBare ending path line column where
  stem := h.stem
  path := h.path
  line := h.line.1.digits
  column ds hds := by
    obtain rfl : column = some ds := hds
    rcases h.column with hcolumn | _
    exact hcolumn.1.digits

/-- The path is not empty. -/
theorem IsDiagnostic.path_ne_nil (h : IsDiagnostic ending path line column n m) : path ≠ [] := by
  obtain ⟨stem, -, rfl⟩ := h.stem
  simp

/-- There is no blank in the path. -/
theorem IsDiagnostic.isBlank_of_mem_path (h : IsDiagnostic ending path line column n m) :
    ∀ c ∈ path, Text.isBlank c = false := fun c hc =>
  isBlank_of_isPathChar (h.path c hc)

namespace CompiledRule

/-- Whether a rule takes bare diagnostics with an ending apart. A group for the context is one that
they leave out. -/
def locates (ending : List Char) (r : CompiledRule) : Bool :=
  r.pathGroup == 1 && r.lineGroup == 2 && r.columnGroup == some 3 &&
    (r.contextGroup == none || r.contextGroup == some 4) && r.pattern.locates ending

/-- Whether the first of some rules that can match bare diagnostics with an ending takes them
apart. -/
def locatesFirst (ending : List Char) : List CompiledRule → Bool
  | [] => false
  | r :: rs => r.locates ending || (r.pattern.refutes ending && locatesFirst ending rs)

/-- A rule with a pattern that is refuted captures no bare diagnostic. -/
theorem capture_of_refutes {r : CompiledRule} (hr : r.pattern.refutes ending = true)
    (h : IsBare ending path line column) : r.capture (bareText path line column) = none := by
  rw [capture, Pattern.find_eq_search, Pattern.search_eq_none_of_refutes hr h]
  rfl

/-- Where a match gives a path without blanks and the numbers, a rule that locates an ending
captures them. -/
theorem capture_of_search {r : CompiledRule} (hr : r.locates ending = true)
    {text before : List Char}
    (hsearch : r.pattern.search text = some ⟨before, [], Pattern.bareGroups path line column⟩)
    (hne : path ≠ []) (hblank : ∀ c ∈ path, Text.isBlank c = false)
    (hline : Text.IsNumeral line n ∧ n < UInt32.size)
    (hcolumn : Option.Rel (fun s k => Text.IsNumeral s k ∧ k < UInt32.size) column m) :
    r.capture text = some ⟨String.ofList path, n, m, none⟩ := by
  obtain ⟨pattern, pathGroup, lineGroup, columnGroup, contextGroup⟩ := r
  simp only [locates, Bool.and_eq_true, beq_iff_eq, Bool.or_eq_true] at hr
  obtain ⟨⟨⟨⟨rfl, rfl⟩, rfl⟩, hcontext⟩, -⟩ := hr
  obtain ⟨hpathGroup, hlineGroup, hcolumnGroup, hcontextGroup⟩ :=
    Pattern.group?_bareGroups path line column before
  generalize Place.mk before [] (Pattern.bareGroups path line column) = found at *
  have hnumber : Text.numeral? Text.largest32 line = some n :=
    Text.numeral?_eq_some hline.1 (Nat.le_sub_one_of_lt hline.2)
  have hcolumnNumber : column.bind (Text.numeral? Text.largest32) = m := by
    rcases hcolumn with ⟨hnumeral, hsmall⟩ | _
    · exact Text.numeral?_eq_some hnumeral (Nat.le_sub_one_of_lt hsmall)
    · rfl
  have hnone : (contextGroup.bind fun group => (found.group? group).map Text.trim) = none := by
    rcases hcontext with rfl | rfl
    · rfl
    · simp [hcontextGroup]
  simp [capture, hsearch, hpathGroup, hlineGroup, hcolumnGroup, hcolumnNumber, hnone, hnumber, hne,
    Text.trim_eq_self hblank]

/-- The pattern of a rule that locates an ending does. -/
theorem pattern_locates {r : CompiledRule} (hr : r.locates ending = true) :
    r.pattern.locates ending = true := by
  simp only [locates, Bool.and_eq_true] at hr
  exact hr.2

/-- **Captures.** A rule that locates an ending captures each bare diagnostic with it. -/
theorem capture_of_locates {r : CompiledRule} (hr : r.locates ending = true)
    (h : IsDiagnostic ending path line column n m) :
    r.capture (bareText path line column) = some ⟨String.ofList path, n, m, none⟩ := by
  obtain ⟨before, hsearch⟩ := Pattern.search_eq_some_of_locates (pattern_locates hr) h.isBare
  exact capture_of_search hr hsearch h.path_ne_nil h.isBlank_of_mem_path h.line h.column

end CompiledRule

namespace Grammar

/-- A grammar whose rules are all refuted captures no bare diagnostic. -/
theorem captures_of_refutes {g : Grammar} (hg : ∀ r ∈ g.rules, r.pattern.refutes ending = true)
    (h : IsBare ending path line column) :
    g.captures (String.ofList (bareText path line column)) = none := by
  rw [captures, String.toList_ofList, List.findSome?_eq_none_iff]
  exact fun r hr => CompiledRule.capture_of_refutes (hg r hr) h

/-- A grammar captures each bare diagnostic with an ending that its rules locate. -/
theorem captures_of_locatesFirst {g : Grammar}
    (hg : CompiledRule.locatesFirst ending g.rules = true)
    (h : IsDiagnostic ending path line column n m) :
    g.captures (String.ofList (bareText path line column)) =
      some ⟨String.ofList path, n, m, none⟩ := by
  rw [captures, String.toList_ofList]
  generalize g.rules = rules at hg
  induction rules with
  | nil => cases hg
  | cons r rs ih =>
    simp only [CompiledRule.locatesFirst, Bool.or_eq_true, Bool.and_eq_true] at hg
    rcases hg with hlocates | ⟨hrefutes, hrest⟩
    · rw [List.findSome?_cons, CompiledRule.capture_of_locates hlocates h]
    · rw [List.findSome?_cons, CompiledRule.capture_of_refutes hrefutes h.isBare]
      exact ih hrest

end Grammar

/-! ## Tables -/

/-- A table of definitions, each with the endings that it owns. -/
abbrev OwnerTable := List (Definition × List String)

/-- The characters of the patterns of a definition and of its endings. -/
structure Spelling where
  patterns : List (List Char)
  endings : List (List Char)

/-- Whether a row of a table has the given characters. -/
structure Spelling.Of (row : Definition × List String) (s : Spelling) : Prop where
  patterns : Spells (row.1.rules.map Rule.pattern) s.patterns
  endings : Spells row.2 s.endings

/-- Whether each definition of a table can be read, locates its own endings, and refutes the endings
of all definitions behind it. -/
def settled : OwnerTable → List Spelling → Bool
  | (d, _) :: rows, s :: later =>
    match CompiledRule.allOfChars? d.rules s.patterns with
    | some rules =>
      s.endings.all (CompiledRule.locatesFirst · rules) &&
        (later.all fun s => s.endings.all fun ending => rules.all (·.pattern.refutes ending)) &&
          settled rows later
    | none => false
  | [], [] => true
  | _, _ => false

/-- Whether a definition has rules and a proper name. -/
def Definition.IsNamed (d : Definition) : Prop :=
  d.name ≠ "" ∧ Text.trimmed d.name = d.name ∧ d.rules ≠ []

section Tables

variable {rows : OwnerTable} {spellings : List Spelling}

/-- Each row of a table has its characters. -/
theorem exists_spelling (h : List.Forall₂ Spelling.Of rows spellings)
    {row : Definition × List String} (hrow : row ∈ rows) :
    ∃ s, (row, s) ∈ rows.zip spellings ∧ Spelling.Of row s := by
  induction h with
  | nil => cases hrow
  | @cons first s rows spellings hs _ ih =>
    rcases List.mem_cons.mp hrow with rfl | hrow
    · exact ⟨s, List.mem_cons_self, hs⟩
    · obtain ⟨s', hs', hof⟩ := ih hrow
      exact ⟨s', List.mem_cons_of_mem _ hs', hof⟩

/-- A named definition whose characters denote some rules can be read, and has these rules. -/
theorem Spelling.Of.readable {row : Definition × List String} {s : Spelling}
    (hrow : Spelling.Of row s) (hnamed : row.1.IsNamed) {rules : List CompiledRule}
    (hrules : CompiledRule.allOfChars? row.1.rules s.patterns = some rules) :
    row.1.Readable ∧ row.1.compiledRules = rules :=
  Definition.readable_of_compile
    (Grammar.compile_eq_ok hnamed.1 hnamed.2.1 hnamed.2.2 hrow.patterns hrules)

/-- What is known of the first definition of a settled table. -/
theorem exists_of_settled {row : Definition × List String} {s : Spelling}
    (hrow : Spelling.Of row s) (hnamed : row.1.IsNamed)
    (hsettled : settled (row :: rows) (s :: spellings) = true) :
    row.1.Readable ∧ settled rows spellings = true ∧
      (∀ ending ∈ s.endings, CompiledRule.locatesFirst ending row.1.compiledRules = true) ∧
      ∀ s ∈ spellings, ∀ ending ∈ s.endings, ∀ r ∈ row.1.compiledRules,
        r.pattern.refutes ending = true := by
  unfold settled at hsettled
  split at hsettled
  · rename_i rules hrules
    simp only [Bool.and_eq_true, List.all_eq_true] at hsettled
    obtain ⟨⟨hown, hlater⟩, hrest⟩ := hsettled
    obtain ⟨hreadable, rfl⟩ := hrow.readable hnamed hrules
    exact ⟨hreadable, hrest, hown, hlater⟩
  · cases hsettled

/-- The definitions of a settled table can be read. -/
theorem readable_of_settled (hspelled : List.Forall₂ Spelling.Of rows spellings)
    (hnamed : ∀ row ∈ rows, row.1.IsNamed) (hsettled : settled rows spellings = true) :
    ∀ row ∈ rows, row.1.Readable := by
  induction hspelled with
  | nil => simp
  | cons hrow _ ih =>
    obtain ⟨hname, hnamed⟩ := List.forall_mem_cons.mp hnamed
    obtain ⟨hreadable, hrest, -⟩ := exists_of_settled hrow hname hsettled
    exact List.forall_mem_cons.mpr ⟨hreadable, ih hnamed hrest⟩

/-- **Owners.** Of the grammars of a settled table, the first one that captures a bare diagnostic is
the one that owns the ending. -/
theorem findSome?_of_settled (hspelled : List.Forall₂ Spelling.Of rows spellings)
    (hnamed : ∀ row ∈ rows, row.1.IsNamed) (hsettled : settled rows spellings = true)
    {owner : Definition} {endings : List String} (howner : (owner, endings) ∈ rows)
    {ending : String} (hending : ending ∈ endings)
    (h : IsDiagnostic ending.toList path line column n m) {α : Type}
    (f : Grammar → Capture → α) :
    ((rows.map fun row => row.1.grammar).findSome? fun g =>
      (g.captures (String.ofList (bareText path line column))).map (f g)) =
        some (f owner.grammar ⟨String.ofList path, n, m, none⟩) := by
  induction hspelled with
  | nil => cases howner
  | @cons row s rows spellings hrow hspelled ih =>
    obtain ⟨hname, hnamed⟩ := List.forall_mem_cons.mp hnamed
    obtain ⟨-, hrest, hown, hlater⟩ := exists_of_settled hrow hname hsettled
    rw [List.map_cons, List.findSome?_cons]
    rcases List.mem_cons.mp howner with rfl | howner
    · have hlocates : CompiledRule.locatesFirst ending.toList owner.grammar.rules = true := by
        rw [Definition.rules_grammar]
        exact hown _ (hrow.endings.mem_iff.mpr hending)
      rw [Grammar.captures_of_locatesFirst hlocates h]
      rfl
    · obtain ⟨s', hs', hrow'⟩ := exists_spelling hspelled howner
      have hrefutes : ∀ r ∈ row.1.grammar.rules, r.pattern.refutes ending.toList = true := by
        rw [Definition.rules_grammar]
        exact hlater s' (List.of_mem_zip hs').2 ending.toList
          (hrow'.endings.mem_iff.mpr hending)
      rw [Grammar.captures_of_refutes hrefutes h.isBare]
      exact ih hnamed hrest howner

end Tables

end TraceScan
