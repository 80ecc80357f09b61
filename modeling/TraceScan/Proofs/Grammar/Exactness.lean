import TraceScan.Matching
import TraceScan.Proofs.Grammar.Ownership

/-!
# All grammars that capture a text

In a sequence of lines the grammars that capture a line compete for it, and it does not suffice to
know the first of them. For texts of some kind of which nothing but an ending is known, a table may
give each grammar the endings of the texts that it captures. Two checks on single rules tell whether
a rule takes the texts with an ending apart, and whether it refuses all of them (`EndingCheck`).
With them the table can be evaluated (`EndingCheck.exact`), and then it says for each text of the
kind which grammars are its candidates (`EndingCheck.candidates_eq`).
-/

namespace TraceScan

/-! ## Rules -/

namespace CompiledRule

/-- Whether the first of some rules that does not refuse takes. -/
def first (takes refuses : CompiledRule → Bool) : List CompiledRule → Bool
  | [] => false
  | r :: rs => takes r || (refuses r && first takes refuses rs)

variable {takes refuses takes' refuses' : CompiledRule → Bool} {rules : List CompiledRule}

/-- Weaker checks are passed by the same rules. -/
theorem first_imp (htakes : ∀ r, takes r = true → takes' r = true)
    (hrefuses : ∀ r, refuses r = true → refuses' r = true) (h : first takes refuses rules = true) :
    first takes' refuses' rules = true := by
  induction rules with
  | nil => cases h
  | cons r rs ih =>
    simp only [first, Bool.or_eq_true, Bool.and_eq_true] at h ⊢
    exact h.imp (htakes r) fun hrest => ⟨hrefuses r hrest.1, ih hrest.2⟩

/-- What the first rule captures that does not refuse. -/
theorem findSome?_of_first {text : List Char} {capture : Capture}
    (htakes : ∀ r, takes r = true → r.capture text = some capture)
    (hrefuses : ∀ r, refuses r = true → r.capture text = none)
    (h : first takes refuses rules = true) :
    rules.findSome? (·.capture text) = some capture := by
  induction rules with
  | nil => cases h
  | cons r rs ih =>
    simp only [first, Bool.or_eq_true, Bool.and_eq_true] at h
    rcases h with htake | ⟨hrefuse, hrest⟩
    · rw [List.findSome?_cons, htakes r htake]
    · rw [List.findSome?_cons, hrefuses r hrefuse]
      exact ih hrest

end CompiledRule

/-! ## Checks -/

/-- The definitions to which a table gives an ending, in the order of the table. -/
def takersOf (rows : OwnerTable) (ending : String) : List Definition :=
  (rows.filter (ending ∈ ·.2)).map Prod.fst

/-- How the rules of a grammar are checked for texts of some kind that have an ending. -/
structure EndingCheck where
  /-- Whether a rule takes such texts apart as it should for a definition. -/
  takes : Definition → List Char → CompiledRule → Bool
  /-- Whether a rule captures none of them. -/
  refuses : List Char → CompiledRule → Bool

namespace EndingCheck

variable (check : EndingCheck)

/-- Whether the rules of a definition take the texts with the endings `own`, and refuse those with
the other ones of some endings. -/
def sorts (d : Definition) (rules : List CompiledRule) (own endings : List (List Char)) : Bool :=
  endings.all fun ending =>
    if own.contains ending then
      CompiledRule.first (check.takes d ending) (check.refuses ending) rules
    else rules.all (check.refuses ending)

/-- Whether each definition of a table can be read, takes the texts with its own endings and refuses
those with the other endings of the table. -/
def exact (rows : OwnerTable) (spellings : List Spelling) : Bool :=
  (rows.zip spellings).all fun (row, s) =>
    match CompiledRule.allOfChars? row.1.rules s.patterns with
    | some rules => check.sorts row.1 rules s.endings (spellings.flatMap Spelling.endings)
    | none => false

/-- Whether a table gives each grammar exactly those of its endings whose texts the grammar takes.
-/
def Exact (rows : OwnerTable) : Prop :=
  ∀ row ∈ rows, ∀ other ∈ rows, ∀ ending ∈ other.2,
    if ending ∈ row.2 then
      CompiledRule.first (check.takes row.1 ending.toList) (check.refuses ending.toList)
        row.1.compiledRules = true
    else ∀ r ∈ row.1.compiledRules, check.refuses ending.toList r = true

variable {check}

/-- **The check.** A table that passes is exact. -/
theorem exact_sound {rows : OwnerTable} {spellings : List Spelling}
    (hspelled : List.Forall₂ Spelling.Of rows spellings) (hnamed : ∀ row ∈ rows, row.1.IsNamed)
    (h : check.exact rows spellings = true) : check.Exact rows := by
  intro row hrow other hother ending hending
  obtain ⟨s, hs, hof⟩ := exists_spelling hspelled hrow
  obtain ⟨s', hs', hof'⟩ := exists_spelling hspelled hother
  have hlisted : ending.toList ∈ spellings.flatMap Spelling.endings :=
    List.mem_flatMap.mpr ⟨s', (List.of_mem_zip hs').2, hof'.endings.mem_iff.mpr hending⟩
  have hsorts := List.all_eq_true.mp h (row, s) hs
  dsimp only at hsorts
  split at hsorts
  · rename_i rules hrules
    obtain ⟨-, rfl⟩ := hof.readable (hnamed row hrow) hrules
    have hone := List.all_eq_true.mp hsorts ending.toList hlisted
    simp only [List.contains_iff_mem, hof.endings.mem_iff] at hone
    split at hone
    · rwa [if_pos ‹_›]
    · rw [if_neg ‹_›]
      exact List.all_eq_true.mp hone
  · cases hsorts

/-- A table that is exact for a check is exact for weaker ones. -/
theorem Exact.imp {check' : EndingCheck} {rows : OwnerTable} (h : check.Exact rows)
    (htakes : ∀ d ending r, check.takes d ending r = true → check'.takes d ending r = true)
    (hrefuses : ∀ ending r, check.refuses ending r = true → check'.refuses ending r = true) :
    check'.Exact rows := by
  intro row hrow other hother ending hending
  have hone := h row hrow other hother ending hending
  split at hone
  · rw [if_pos ‹_›]
    exact CompiledRule.first_imp (htakes row.1 ending.toList) (hrefuses ending.toList) hone
  · rw [if_neg ‹_›]
    exact fun r hr => hrefuses ending.toList r (hone r hr)

/-! ## Texts -/

/-- Whether a text is captured as the checks on an ending say: rules that take it for a definition
capture what is given, and rules that refuse it capture nothing. -/
structure Reads (check : EndingCheck) (ending text : List Char) (capture : Definition → Capture) :
    Prop where
  takes : ∀ d r, check.takes d ending r = true → r.capture text = some (capture d)
  refuses : ∀ r, check.refuses ending r = true → r.capture text = none

section Tables

variable {rows : OwnerTable} {other : Definition × List String} {ending : String}
  {text : List Char} {capture : Definition → Capture}

/-- A grammar of an exact table captures a text if and only if the ending is one of its own. -/
theorem captures_eq (h : check.Exact rows) {row : Definition × List String} (hrow : row ∈ rows)
    (hother : other ∈ rows) (hending : ending ∈ other.2)
    (hreads : check.Reads ending.toList text capture) :
    row.1.grammar.captures (String.ofList text) =
      if ending ∈ row.2 then some (capture row.1) else none := by
  have hone := h row hrow other hother ending hending
  rw [Grammar.captures, String.toList_ofList, Definition.rules_grammar]
  split at hone
  · rw [if_pos ‹_›]
    exact CompiledRule.findSome?_of_first (hreads.takes row.1) hreads.refuses hone
  · rw [if_neg ‹_›, List.findSome?_eq_none_iff]
    exact fun r hr => hreads.refuses r (hone r hr)

/-- **Candidates.** The candidates of a text are the grammars to which an exact table gives the
ending. -/
theorem candidates_eq (h : check.Exact rows) {m : Matcher}
    (hm : m.grammars = rows.map fun row => row.1.grammar) {d : Definition}
    (hd : d ∈ takersOf rows ending) (hreads : check.Reads ending.toList text capture) :
    m.candidates (String.ofList text) =
      (takersOf rows ending).map fun d => (d.grammar, capture d) := by
  obtain ⟨other, hlisted, -⟩ := List.mem_map.mp hd
  obtain ⟨hother, hending⟩ := List.mem_filter.mp hlisted
  have hcaptures : ∀ row ∈ rows, row.1.grammar.captures (String.ofList text) =
      if ending ∈ row.2 then some (capture row.1) else none := fun _ hrow =>
    captures_eq h hrow hother (of_decide_eq_true hending) hreads
  rw [Matcher.candidates, hm, List.filterMap_map, takersOf, List.map_map]
  clear h hm hother hlisted hd
  induction rows with
  | nil => rfl
  | cons row rows ih =>
    obtain ⟨hrow, hrows⟩ := List.forall_mem_cons.mp hcaptures
    rw [List.filterMap_cons, Function.comp_apply, hrow, ih hrows, List.filter_cons]
    by_cases hown : ending ∈ row.2 <;> simp [hown]

end Tables

end EndingCheck

end TraceScan
