import Mathlib.Data.List.Forall2
import TraceScan.Proofs.Grammar.Validation

/-!
# Reading definitions by their characters

Taking a text apart into its characters costs more than reading the pattern that they denote. Where
the characters are known (`Spells`), a definition can be read without taking any text apart:
`Grammar.compile_eq_ok`.
-/

namespace TraceScan

/-! ## Texts and characters -/

/-- Whether some texts have the given characters, one by one. -/
def Spells : List String → List (List Char) → Prop :=
  List.Forall₂ fun text s => text = String.ofList s

/-- The characters are those of the texts, in the same order. -/
theorem Spells.eq_map {texts : List String} {chars : List (List Char)} (h : Spells texts chars) :
    chars = texts.map String.toList := by
  induction h with
  | nil => rfl
  | cons hs _ ih => rw [List.map_cons, ← ih, hs, String.toList_ofList]

/-- Each text has its characters, and no other text has them. -/
theorem Spells.mem_iff {texts : List String} {chars : List (List Char)} (h : Spells texts chars)
    {text : String} : text.toList ∈ chars ↔ text ∈ texts := by
  rw [h.eq_map, List.mem_map]
  exact ⟨fun ⟨_, hmem, heq⟩ => String.toList_inj.mp heq ▸ hmem, fun hmem => ⟨text, hmem, rfl⟩⟩

/-- The characters of a text behind another one. -/
theorem spell_append {text text' : String} {s t : List Char} (hs : text = String.ofList s)
    (ht : text' = String.ofList t) : text ++ text' = String.ofList (s ++ t) := by
  rw [hs, ht, String.ofList_append]

/-! ## Patterns and rules -/

/-- The pattern that some characters denote. -/
def Pattern.readChars (s : List Char) : Except PatternError Pattern := do
  let r ← readAux s.length {} s
  if r.groups.isEmpty then
    let whole := r.whole
    if deepest < whole.depth then throw .tooDeep
    else if largest < whole.pattern.size then throw .tooLarge
    else pure whole.pattern
  else throw .groupUnclosed

/-- The pattern of a text is the one that its characters denote. -/
theorem Pattern.read_ofList (s : List Char) : read (String.ofList s) = readChars s := by
  show readChars (String.ofList s).toList = readChars s
  rw [String.toList_ofList]

/-- A rule whose pattern is denoted by some characters, if it has all its groups. -/
def CompiledRule.ofChars? (rule : Rule) (s : List Char) : Option CompiledRule :=
  match Pattern.readChars s, rule.pathGroup, rule.lineGroup with
  | .ok p, some path, some line =>
    if hasGroup p path && hasGroup p line && rule.columnGroup.all (hasGroup p) &&
        rule.contextGroup.all (hasGroup p) then
      some ⟨p, path, line, rule.columnGroup, rule.contextGroup⟩
    else none
  | _, _, _ => none

/-- A rule is compiled as its characters say. -/
theorem CompiledRule.compile_eq_ok {rule : Rule} {s : List Char} {r : CompiledRule}
    (hs : rule.pattern = String.ofList s) (h : ofChars? rule s = some r) (name : String)
    (index : Nat) : compile name rule index = .ok r := by
  obtain ⟨pattern, pathGroup, lineGroup, columnGroup, contextGroup⟩ := rule
  obtain rfl : pattern = String.ofList s := hs
  unfold ofChars? at h
  split at h
  · rename_i p path line hread hpath hline
    obtain rfl : pathGroup = some path := hpath
    obtain rfl : lineGroup = some line := hline
    split at h
    · rename_i hgroups
      simp only [Bool.and_eq_true] at hgroups
      obtain ⟨⟨⟨hpath, hline⟩, hcolumn⟩, hcontext⟩ := hgroups
      obtain rfl := Option.some.inj h
      -- the optional groups exist if they are named
      cases columnGroup <;> cases contextGroup <;>
        simp_all [compile, Pattern.read_ofList, Option.filter, bind, Except.bind, pure, Except.pure]
    · cases h
  · cases h

/-! ## Definitions -/

/-- The rules whose patterns are denoted by some characters, if they all have their groups. -/
def CompiledRule.allOfChars? : List Rule → List (List Char) → Option (List CompiledRule)
  | rule :: rules, s :: chars =>
    match ofChars? rule s, allOfChars? rules chars with
    | some r, some rs => some (r :: rs)
    | _, _ => none
  | [], [] => some []
  | _, _ => none

/-- All rules are compiled as their characters say. -/
theorem CompiledRule.mapM_compile {rules : List Rule} {chars : List (List Char)}
    {rs : List CompiledRule} (hspells : Spells (rules.map Rule.pattern) chars)
    (h : allOfChars? rules chars = some rs) (name : String) (start : Nat) :
    ((rules.zipIdx start).mapM fun (rule, index) => compile name rule index) = .ok rs := by
  induction rules generalizing chars rs start with
  | nil =>
    cases hspells
    obtain rfl := Option.some.inj h
    rfl
  | cons rule rules ih =>
    obtain _ | ⟨hs, hspells⟩ := hspells
    unfold allOfChars? at h
    split at h
    · rename_i r rs' hr hrs
      obtain rfl := Option.some.inj h
      rw [List.zipIdx_cons, List.mapM_cons]
      simp only [compile_eq_ok hs hr, ih hspells hrs, bind, Except.bind, pure, Except.pure]
    · cases h

/-- **Reading.** A definition with a proper name is read as the characters of its patterns say. -/
theorem Grammar.compile_eq_ok {d : Definition} (hne : d.name ≠ "")
    (htrimmed : Text.trimmed d.name = d.name) (hrules : d.rules ≠ []) {chars : List (List Char)}
    {rs : List CompiledRule} (hspells : Spells (d.rules.map Rule.pattern) chars)
    (h : CompiledRule.allOfChars? d.rules chars = some rs) : compile d = .ok ⟨d, rs⟩ := by
  rw [compile_eq, htrimmed, if_neg hne, if_neg hrules, CompiledRule.mapM_compile hspells h d.name 0]
  rfl

end TraceScan
