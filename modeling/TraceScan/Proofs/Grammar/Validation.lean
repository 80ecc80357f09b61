import Mathlib.Data.List.Forall2
import TraceScan.Grammar.Compiled

/-!
# The first defect of a definition

A definition may have many defects at once, in its name, in its list of rules and in each of its
rules. `Definition.HasDefect` tells all of them, in no order, and `RegistrationError.checksBefore`
says which check finds a defect. A definition without a defect is read, and any other one is refused
with the defect that the first of all checks finds: `compile_reports_first_defect`. The grammar that
is read looks up no group that its patterns do not have.
-/

namespace TraceScan

/-! ## Lists of outcomes -/

section Outcomes

variable {α β ε : Type} {f : α → Except ε β}

/-- A list is read when each element is. -/
theorem mapM_eq_ok_iff {l : List α} {bs : List β} :
    l.mapM f = .ok bs ↔ List.Forall₂ (fun a b => f a = .ok b) l bs := by
  induction l generalizing bs with
  | nil =>
    rw [List.mapM_nil, List.forall₂_nil_left_iff]
    exact ⟨fun h => (Except.ok.inj h).symm, fun h => h ▸ rfl⟩
  | cons a l ih =>
    rw [List.mapM_cons, List.forall₂_cons_left_iff]
    cases ha : f a with
    | error e => simp [bind, Except.bind]
    | ok b =>
      cases hl : l.mapM f with
      | error e => simp [bind, Except.bind, ← ih, hl]
      | ok bs' => simp [bind, Except.bind, pure, Except.pure, ← ih, hl, eq_comm]

/-- A list that is not read is refused for its first element that is not. -/
theorem exists_of_mapM_eq_error {l : List α} {error : ε} (h : l.mapM f = .error error) :
    ∃ (i : Nat) (a : α), l[i]? = some a ∧ f a = .error error ∧
      ∀ j < i, ∀ b, l[j]? = some b → ∃ c, f b = .ok c := by
  induction l with
  | nil => cases h
  | cons a l ih =>
    rw [List.mapM_cons] at h
    cases ha : f a with
    | error e =>
      rw [ha] at h
      cases h
      exact ⟨0, a, rfl, ha, fun j hj => absurd hj (Nat.not_lt_zero j)⟩
    | ok b =>
      cases hl : l.mapM f with
      | ok bs => simp [ha, hl, bind, Except.bind, pure, Except.pure] at h
      | error e =>
        rw [ha, hl] at h
        cases h
        obtain ⟨i, a', hi, ha', hbefore⟩ := ih hl
        refine ⟨i + 1, a', hi, ha', ?_⟩
        intro j hj b' hb'
        cases j with
        | zero =>
          cases hb'
          exact ⟨b, ha⟩
        | succ j => exact hbefore j (Nat.lt_of_succ_lt_succ hj) b' hb'

end Outcomes

/-! ## Defects -/

/-- Whether a pattern has a numbered group. The number 0 is that of the whole match. -/
def Pattern.HasGroup (p : Pattern) (group : Nat) : Prop :=
  1 ≤ group ∧ group ≤ p.lastGroup

/-- What is wrong with a rule at a place in the grammar `name`. The groups of a pattern that cannot
be read are not known. -/
inductive Rule.HasDefect (name : String) (index : Nat) (rule : Rule) : RegistrationError → Prop
  | pattern {cause : PatternError} : Pattern.read rule.pattern = .error cause →
    HasDefect name index rule (.invalidPattern name index (.unreadable cause))
  | path {p : Pattern} : Pattern.read rule.pattern = .ok p →
    (¬ ∃ group ∈ rule.pathGroup, p.HasGroup group) →
    HasDefect name index rule (.missingPathGroup name index)
  | line {p : Pattern} : Pattern.read rule.pattern = .ok p →
    (¬ ∃ group ∈ rule.lineGroup, p.HasGroup group) →
    HasDefect name index rule (.missingLineGroup name index)
  | column {p : Pattern} {group : Nat} : Pattern.read rule.pattern = .ok p →
    rule.columnGroup = some group → ¬ p.HasGroup group →
    HasDefect name index rule (.invalidPattern name index (.absentGroup .column group))
  | context {p : Pattern} {group : Nat} : Pattern.read rule.pattern = .ok p →
    rule.contextGroup = some group → ¬ p.HasGroup group →
    HasDefect name index rule (.invalidPattern name index (.absentGroup .context group))

/-- What is wrong with a definition. -/
inductive Definition.HasDefect (d : Definition) : RegistrationError → Prop
  | name : Text.trimmed d.name = "" → HasDefect d .invalidName
  | rules : d.rules = [] → HasDefect d (.noPatterns (Text.trimmed d.name))
  | rule {index : Nat} {rule : Rule} {error : RegistrationError} : d.rules[index]? = some rule →
    rule.HasDefect (Text.trimmed d.name) index error → HasDefect d error

/-- How many checks come before the one that finds a defect: those of the name and of the list of
rules come first, and then five for each rule. A name that is taken is no defect of the definition.
-/
def RegistrationError.checksBefore : RegistrationError → Nat
  | invalidName => 0
  | noPatterns _ => 1
  | invalidPattern _ index (.unreadable _) => 5 * index + 2
  | missingPathGroup _ index => 5 * index + 3
  | missingLineGroup _ index => 5 * index + 4
  | invalidPattern _ index (.absentGroup .column _) => 5 * index + 5
  | invalidPattern _ index (.absentGroup .context _) => 5 * index + 6
  | duplicateName _ => 0

/-- Whether an error tells the defect of a rule that the first check finds. -/
structure Rule.FirstDefect (name : String) (index : Nat) (rule : Rule) (error : RegistrationError) :
    Prop where
  defect : rule.HasDefect name index error
  first : ∀ other, rule.HasDefect name index other → error.checksBefore ≤ other.checksBefore

/-- Whether an error tells the defect of a definition that the first check finds. -/
structure Definition.FirstDefect (d : Definition) (error : RegistrationError) : Prop where
  defect : d.HasDefect error
  first : ∀ other, d.HasDefect other → error.checksBefore ≤ other.checksBefore

/-! ## Sound definitions -/

/-- Whether a rule has a pattern, with all groups that it names. -/
structure Rule.Sound (rule : Rule) (p : Pattern) : Prop where
  read : Pattern.read rule.pattern = .ok p
  path : ∃ group ∈ rule.pathGroup, p.HasGroup group
  line : ∃ group ∈ rule.lineGroup, p.HasGroup group
  column : ∀ group ∈ rule.columnGroup, p.HasGroup group
  context : ∀ group ∈ rule.contextGroup, p.HasGroup group

/-- Whether a definition has a name, rules, and nothing wrong in any of them. -/
structure Definition.Sound (d : Definition) : Prop where
  name : Text.trimmed d.name ≠ ""
  rules : d.rules ≠ []
  rule : ∀ rule ∈ d.rules, ∃ p, rule.Sound p

/-- Where the pattern can be read, each defect is one of the groups, found by the check of this
group. -/
theorem Rule.HasDefect.of_read {name : String} {index : Nat} {rule : Rule}
    {error : RegistrationError} (h : rule.HasDefect name index error) {p : Pattern}
    (hread : Pattern.read rule.pattern = .ok p) :
    error.checksBefore = 5 * index + 3 ∧ (¬ ∃ group ∈ rule.pathGroup, p.HasGroup group) ∨
      error.checksBefore = 5 * index + 4 ∧ (¬ ∃ group ∈ rule.lineGroup, p.HasGroup group) ∨
      error.checksBefore = 5 * index + 5 ∧ (¬ ∀ group ∈ rule.columnGroup, p.HasGroup group) ∨
      error.checksBefore = 5 * index + 6 ∧ ¬ ∀ group ∈ rule.contextGroup, p.HasGroup group := by
  have hp : ∀ {q}, Pattern.read rule.pattern = .ok q → q = p := by
    intro q hq
    exact Except.ok.inj (hq.symm.trans hread)
  cases h with
  | pattern hread' =>
    rw [hread] at hread'
    cases hread'
  | path hread' hnone => exact Or.inl ⟨rfl, hp hread' ▸ hnone⟩
  | line hread' hnone => exact Or.inr (Or.inl ⟨rfl, hp hread' ▸ hnone⟩)
  | column hread' hgroup habsent =>
    refine Or.inr (Or.inr (Or.inl ⟨rfl, fun hall => ?_⟩))
    exact habsent (hp hread' ▸ hall _ hgroup)
  | context hread' hgroup habsent =>
    refine Or.inr (Or.inr (Or.inr ⟨rfl, fun hall => ?_⟩))
    exact habsent (hp hread' ▸ hall _ hgroup)

/-- A sound rule has no defect. -/
theorem Rule.Sound.not_hasDefect {rule : Rule} {p : Pattern} (h : rule.Sound p) (name : String)
    (index : Nat) (error : RegistrationError) : ¬ rule.HasDefect name index error := by
  intro hdefect
  rcases hdefect.of_read h.read with ⟨-, hnone⟩ | ⟨-, hnone⟩ | ⟨-, hnone⟩ | ⟨-, hnone⟩
  · exact hnone h.path
  · exact hnone h.line
  · exact hnone h.column
  · exact hnone h.context

/-- A sound definition has no defect. -/
theorem Definition.Sound.not_hasDefect {d : Definition} (h : d.Sound) (error : RegistrationError) :
    ¬ d.HasDefect error := by
  intro hdefect
  cases hdefect with
  | name hname => exact h.name hname
  | rules hrules => exact h.rules hrules
  | rule hindex hdefect =>
    obtain ⟨p, hp⟩ := h.rule _ (List.mem_of_getElem? hindex)
    exact hp.not_hasDefect _ _ _ hdefect

/-- The defects of a definition that has a name and rules are those of its rules. -/
theorem Definition.HasDefect.exists_rule {d : Definition} {error : RegistrationError}
    (h : d.HasDefect error) (hname : Text.trimmed d.name ≠ "") (hrules : d.rules ≠ []) :
    ∃ (index : Nat) (rule : Rule), d.rules[index]? = some rule ∧
      rule.HasDefect (Text.trimmed d.name) index error := by
  cases h with
  | name h => exact absurd h hname
  | rules h => exact absurd h hrules
  | rule hindex hdefect => exact ⟨_, _, hindex, hdefect⟩

/-! ## The order of the checks -/

/-- The defects of a rule are found by its own five checks. -/
theorem Rule.HasDefect.checksBefore_bounds {name : String} {index : Nat} {rule : Rule}
    {error : RegistrationError} (h : rule.HasDefect name index error) :
    5 * index + 2 ≤ error.checksBefore ∧ error.checksBefore ≤ 5 * index + 6 := by
  cases h <;> simp only [RegistrationError.checksBefore] <;> omega

/-- One check finds one defect of a rule. -/
theorem Rule.HasDefect.unique {name : String} {index : Nat} {rule : Rule}
    {error other : RegistrationError} (h : rule.HasDefect name index error)
    (h' : rule.HasDefect name index other) (heq : error.checksBefore = other.checksBefore) :
    error = other := by
  cases h <;> cases h' <;> simp only [RegistrationError.checksBefore] at heq <;>
    first
      | rfl
      | omega
      | simp_all

/-- One check finds one defect of a definition. -/
theorem Definition.HasDefect.unique {d : Definition} {error other : RegistrationError}
    (h : d.HasDefect error) (h' : d.HasDefect other)
    (heq : error.checksBefore = other.checksBefore) : error = other := by
  -- the checks of the rules come behind the first two
  have hrule : ∀ {i : Nat} {rule : Rule} {e : RegistrationError},
      rule.HasDefect (Text.trimmed d.name) i e → 1 < e.checksBefore := by
    intro i rule e he
    have := he.checksBefore_bounds
    omega
  cases h with
  | name _ =>
    cases h' with
    | name _ => rfl
    | rules _ => cases heq
    | rule _ hdefect => exact absurd (hrule hdefect) (heq ▸ by decide)
  | rules _ =>
    cases h' with
    | name _ => cases heq
    | rules _ => rfl
    | rule _ hdefect => exact absurd (hrule hdefect) (heq ▸ Nat.lt_irrefl 1)
  | @rule i rule _ hi hdefect =>
    cases h' with
    | name _ => exact absurd (hrule hdefect) (heq ▸ by decide)
    | rules _ => exact absurd (hrule hdefect) (heq ▸ Nat.lt_irrefl 1)
    | @rule j rule' _ hj hdefect' =>
      have hbounds := hdefect.checksBefore_bounds
      have hbounds' := hdefect'.checksBefore_bounds
      obtain rfl : i = j := by omega
      rw [hi, Option.some.injEq] at hj
      subst hj
      exact hdefect.unique hdefect' heq

/-! ## Reading a rule -/

/-- What a rule becomes when it is read. -/
structure CompiledRule.Reads (c : CompiledRule) (rule : Rule) : Prop where
  sound : rule.Sound c.pattern
  path : rule.pathGroup = some c.pathGroup
  line : rule.lineGroup = some c.lineGroup
  column : rule.columnGroup = c.columnGroup
  context : rule.contextGroup = c.contextGroup

namespace CompiledRule

/-- The check of a group number decides whether the pattern has the group. -/
theorem hasGroup_iff {p : Pattern} {group : Nat} : hasGroup p group = true ↔ p.HasGroup group := by
  simp [hasGroup, Pattern.HasGroup]

/-- A group number that a rule needs passes the check, or there is none that does. -/
theorem filter_hasGroup (p : Pattern) (group : Option Nat) :
    group.filter (hasGroup p) = none ∧ (¬ ∃ g ∈ group, p.HasGroup g) ∨
      ∃ g, group.filter (hasGroup p) = some g ∧ group = some g ∧ p.HasGroup g := by
  cases group with
  | none => exact Or.inl ⟨rfl, by simp⟩
  | some g =>
    by_cases hg : hasGroup p g = true
    · exact Or.inr ⟨g, by simp [Option.filter, hg], rfl, hasGroup_iff.mp hg⟩
    · refine Or.inl ⟨by simp [Option.filter, hg], ?_⟩
      rintro ⟨_, ⟨⟩, hgroup⟩
      exact hg (hasGroup_iff.mpr hgroup)

/-- The check of a group that a rule may leave out. -/
def checkOptional (name : String) (index : Nat) (p : Pattern) (role : GroupRole) :
    Option Nat → Except RegistrationError Unit
  | some group =>
    if hasGroup p group then .ok ()
    else .error (.invalidPattern name index (.absentGroup role group))
  | none => .ok ()

/-- A group that a rule may leave out passes the check, or it is one that the pattern does not
have. -/
theorem checkOptional_cases (name : String) (index : Nat) (p : Pattern) (role : GroupRole)
    (group : Option Nat) :
    checkOptional name index p role group = .ok () ∧ (∀ g ∈ group, p.HasGroup g) ∨
      ∃ g, checkOptional name index p role group =
          .error (.invalidPattern name index (.absentGroup role g)) ∧
        group = some g ∧ ¬ p.HasGroup g := by
  cases group with
  | none => exact Or.inl ⟨rfl, by simp⟩
  | some g =>
    by_cases hg : hasGroup p g = true
    · refine Or.inl ⟨if_pos hg, ?_⟩
      rintro _ ⟨⟩
      exact hasGroup_iff.mp hg
    · exact Or.inr ⟨g, if_neg hg, rfl, fun h => hg (hasGroup_iff.mpr h)⟩

/-- A rule is read by five checks, the last two of which are alike. -/
theorem compile_eq (name : String) (rule : Rule) (index : Nat) :
    compile name rule index =
      match Pattern.read rule.pattern with
      | .error cause => .error (.invalidPattern name index (.unreadable cause))
      | .ok p =>
        match rule.pathGroup.filter (hasGroup p), rule.lineGroup.filter (hasGroup p) with
        | none, _ => .error (.missingPathGroup name index)
        | some _, none => .error (.missingLineGroup name index)
        | some path, some line =>
          (checkOptional name index p .column rule.columnGroup).bind fun _ =>
            (checkOptional name index p .context rule.contextGroup).bind fun _ =>
              .ok ⟨p, path, line, rule.columnGroup, rule.contextGroup⟩ := by
  unfold compile
  cases hread : Pattern.read rule.pattern with
  | error cause => rfl
  | ok p =>
    simp only [bind, Except.bind, pure, Except.pure]
    cases hpath : rule.pathGroup.filter (hasGroup p) with
    | none => rfl
    | some path =>
      cases hline : rule.lineGroup.filter (hasGroup p) with
      | none => rfl
      | some line => rfl

/-- **Rules.** A rule is read as its pattern and groups say, or it is refused with the first of its
defects. -/
theorem compile_cases (name : String) (rule : Rule) (index : Nat) :
    (∃ c, compile name rule index = .ok c ∧ c.Reads rule) ∨
      ∃ error, compile name rule index = .error error ∧ rule.FirstDefect name index error := by
  rw [compile_eq]
  cases hread : Pattern.read rule.pattern with
  | error cause =>
    exact Or.inr ⟨_, rfl, .pattern hread, fun other hother => hother.checksBefore_bounds.1⟩
  | ok p =>
    -- each check that passes leaves the defects of the later ones
    rcases filter_hasGroup p rule.pathGroup with
      ⟨hfilter, hnone⟩ | ⟨path, hfilter, hpath, hpathGroup⟩
    · simp only [hfilter]
      refine Or.inr ⟨_, rfl, .path hread hnone, fun other hother => ?_⟩
      show 5 * index + 3 ≤ other.checksBefore
      rcases hother.of_read hread with ⟨h, -⟩ | ⟨h, -⟩ | ⟨h, -⟩ | ⟨h, -⟩ <;> omega
    have hpathOk : ∃ group ∈ rule.pathGroup, p.HasGroup group := ⟨path, hpath, hpathGroup⟩
    rcases filter_hasGroup p rule.lineGroup with
      ⟨hfilterLine, hnone⟩ | ⟨line, hfilterLine, hline, hlineGroup⟩
    · simp only [hfilter, hfilterLine]
      refine Or.inr ⟨_, rfl, .line hread hnone, fun other hother => ?_⟩
      show 5 * index + 4 ≤ other.checksBefore
      rcases hother.of_read hread with ⟨-, h⟩ | ⟨h, -⟩ | ⟨h, -⟩ | ⟨h, -⟩
      · exact absurd hpathOk h
      all_goals omega
    have hlineOk : ∃ group ∈ rule.lineGroup, p.HasGroup group := ⟨line, hline, hlineGroup⟩
    simp only [hfilter, hfilterLine]
    rcases checkOptional_cases name index p .column rule.columnGroup with
      ⟨hcheck, hcolumnOk⟩ | ⟨group, hcheck, hcolumn, habsent⟩
    · rcases checkOptional_cases name index p .context rule.contextGroup with
        ⟨hcheckContext, hcontextOk⟩ | ⟨group, hcheckContext, hcontext, habsent⟩
      · simp only [hcheck, hcheckContext, Except.bind]
        exact Or.inl ⟨_, rfl, ⟨hread, hpathOk, hlineOk, hcolumnOk, hcontextOk⟩, hpath, hline, rfl,
          rfl⟩
      · simp only [hcheck, hcheckContext, Except.bind]
        refine Or.inr ⟨_, rfl, .context hread hcontext habsent, fun other hother => ?_⟩
        show 5 * index + 6 ≤ other.checksBefore
        rcases hother.of_read hread with ⟨-, h⟩ | ⟨-, h⟩ | ⟨-, h⟩ | ⟨h, -⟩
        · exact absurd hpathOk h
        · exact absurd hlineOk h
        · exact absurd hcolumnOk h
        · omega
    · simp only [hcheck, Except.bind]
      refine Or.inr ⟨_, rfl, .column hread hcolumn habsent, fun other hother => ?_⟩
      show 5 * index + 5 ≤ other.checksBefore
      rcases hother.of_read hread with ⟨-, h⟩ | ⟨-, h⟩ | ⟨h, -⟩ | ⟨h, -⟩
      · exact absurd hpathOk h
      · exact absurd hlineOk h
      all_goals omega

end CompiledRule

/-! ## Reading a definition -/

namespace Grammar

/-- The checks of a definition: its name, its list of rules, and the rules one by one. -/
theorem compile_eq (d : Definition) :
    compile d =
      if Text.trimmed d.name = "" then .error .invalidName
      else if d.rules = [] then .error (.noPatterns (Text.trimmed d.name))
      else (d.rules.zipIdx.mapM fun (rule, index) =>
          CompiledRule.compile (Text.trimmed d.name) rule index).map
        fun rules => ⟨{ d with name := Text.trimmed d.name }, rules⟩ := by
  simp only [compile, String.isEmpty_iff, List.isEmpty_iff]
  by_cases hname : Text.trimmed d.name = ""
  · simp only [hname, if_true]
    rfl
  by_cases hrules : d.rules = []
  · simp only [hname, hrules, if_true, if_false]
    rfl
  simp only [hname, hrules, if_false]
  rfl

/-- The rules of a definition are read as their patterns and groups say, or the first one that has a
defect is refused with its first defect. -/
theorem compileRules_cases (d : Definition) (hname : Text.trimmed d.name ≠ "")
    (hrules : d.rules ≠ []) :
    let read := d.rules.zipIdx.mapM fun (rule, index) =>
      CompiledRule.compile (Text.trimmed d.name) rule index
    (∃ rules, read = .ok rules ∧ List.Forall₂ (fun rule c => c.Reads rule) d.rules rules) ∨
      ∃ error, read = .error error ∧ d.FirstDefect error := by
  intro read
  have hcases := CompiledRule.compile_cases (Text.trimmed d.name)
  cases hread : read with
  | ok rules =>
    refine Or.inl ⟨rules, rfl, ?_⟩
    rw [← List.zipIdx_map_fst 0 d.rules, List.forall₂_map_left_iff]
    refine (mapM_eq_ok_iff.mp hread).imp ?_
    rintro ⟨rule, index⟩ c hc
    rcases hcases rule index with ⟨c', hc', hreads⟩ | ⟨error, herror, -⟩
    · exact Except.ok.inj (hc'.symm.trans hc) ▸ hreads
    · exact nomatch herror.symm.trans hc
  | error error =>
    refine Or.inr ⟨error, rfl, ?_⟩
    obtain ⟨i, entry, hi, herror, hbefore⟩ := exists_of_mapM_eq_error hread
    rw [List.getElem?_zipIdx] at hi
    obtain ⟨rule, hrule, hentry⟩ := Option.map_eq_some_iff.mp hi
    rw [Nat.zero_add] at hentry
    subst hentry
    have hfirst : rule.FirstDefect (Text.trimmed d.name) i error := by
      rcases hcases rule i with ⟨c, hc, -⟩ | ⟨error', herror', hfirst⟩
      · exact nomatch hc.symm.trans herror
      · exact Except.error.inj (herror'.symm.trans herror) ▸ hfirst
    refine ⟨.rule hrule hfirst.defect, fun other hother => ?_⟩
    obtain ⟨j, rule', hrule', hdefect⟩ := hother.exists_rule hname hrules
    have hbounds := hfirst.defect.checksBefore_bounds
    have hbounds' := hdefect.checksBefore_bounds
    -- the other defect is of an earlier rule, of this one, or of a later one
    rcases Nat.lt_trichotomy j i with hlt | rfl | hlt
    · obtain ⟨c, hc⟩ := hbefore j hlt (rule', j) (by
        rw [List.getElem?_zipIdx, hrule', Option.map_some, Nat.zero_add])
      rcases hcases rule' j with ⟨_, -, hreads⟩ | ⟨_, herror', -⟩
      · exact absurd hdefect (hreads.sound.not_hasDefect _ _ _)
      · exact nomatch herror'.symm.trans hc
    · rw [hrule, Option.some.injEq] at hrule'
      exact hfirst.first other (hrule' ▸ hdefect)
    · omega

/-- **Definitions.** A definition is sound and read under its trimmed name, each rule as its pattern
and groups say, or it is refused with the first of its defects. -/
theorem compile_cases (d : Definition) :
    (∃ g, compile d = .ok g ∧ d.Sound ∧ g.definition = { d with name := Text.trimmed d.name } ∧
        List.Forall₂ (fun rule c => c.Reads rule) d.rules g.rules) ∨
      ∃ error, compile d = .error error ∧ d.FirstDefect error := by
  rw [compile_eq]
  by_cases hname : Text.trimmed d.name = ""
  · rw [if_pos hname]
    exact Or.inr ⟨_, rfl, .name hname, fun other _ => Nat.zero_le _⟩
  rw [if_neg hname]
  by_cases hrules : d.rules = []
  · rw [if_pos hrules]
    refine Or.inr ⟨_, rfl, .rules hrules, fun other hother => ?_⟩
    cases hother with
    | name h => exact absurd h hname
    | rules _ => exact Nat.le_refl 1
    | rule hindex _ =>
      rw [hrules] at hindex
      cases hindex
  rw [if_neg hrules]
  rcases compileRules_cases d hname hrules with ⟨rules, hread, hreads⟩ | ⟨error, herror, hfirst⟩
  · rw [hread]
    refine Or.inl ⟨_, rfl, ⟨hname, hrules, fun rule hrule => ?_⟩, rfl, hreads⟩
    obtain ⟨i, hi, rfl⟩ := List.getElem_of_mem hrule
    exact ⟨_, (hreads.get hi (hreads.length_eq ▸ hi)).sound⟩
  · rw [herror]
    exact Or.inr ⟨error, rfl, hfirst⟩

/-- A definition that is read is sound, and is kept as it is but for the blanks around its name. -/
theorem sound_of_compile {d : Definition} {g : Grammar} (h : compile d = .ok g) :
    d.Sound ∧ g.definition = { d with name := Text.trimmed d.name } := by
  rcases compile_cases d with ⟨g', hg', hsound, hdefinition, -⟩ | ⟨error, herror, -⟩
  · exact Except.ok.inj (hg'.symm.trans h) ▸ ⟨hsound, hdefinition⟩
  · exact nomatch herror.symm.trans h

end Grammar

/-! ## Look-ups -/

/-- What a group of a match holds, if it took part. The look-up of a group that the pattern does not
have fails with its number. -/
def Pattern.lookUp (p : Pattern) (found : Place) (group : Nat) : Except Nat (Option (List Char)) :=
  if CompiledRule.hasGroup p group then .ok (found.group? group) else .error group

/-- The look-up of a group that the pattern has. -/
theorem Pattern.lookUp_of_hasGroup {p : Pattern} {group : Nat} (h : p.HasGroup group)
    (found : Place) : p.lookUp found group = .ok (found.group? group) :=
  if_pos (CompiledRule.hasGroup_iff.mpr h)

/-- What a rule finds in a line by look-ups that may fail. -/
def CompiledRule.checkedCapture (rule : CompiledRule) (line : List Char) :
    Except Nat (Option Capture) :=
  match rule.pattern.find line with
  | none => .ok none
  | some found => do
    let some path ← rule.pattern.lookUp found rule.pathGroup | return none
    if (Text.trim path).isEmpty then return none
    let some digits ← rule.pattern.lookUp found rule.lineGroup | return none
    let some number := Text.numeral? Text.largest32 digits | return none
    let column ← rule.columnGroup.mapM (rule.pattern.lookUp found)
    let context ← rule.contextGroup.mapM (rule.pattern.lookUp found)
    return some {
      path := String.ofList (Text.trim path)
      line := number
      column := column.join.bind (Text.numeral? Text.largest32)
      context := ((context.join.map Text.trim).filter (!·.isEmpty)).map String.ofList }

/-- What the first rule with a match finds in a line by look-ups that may fail. -/
def Grammar.checkedCaptures (g : Grammar) (line : String) : Except Nat (Option Capture) :=
  g.rules.findSomeM? (·.checkedCapture line.toList)

/-- The look-up of a group that a rule may leave out. -/
theorem Pattern.mapM_lookUp {p : Pattern} {group : Option Nat} (h : ∀ g ∈ group, p.HasGroup g)
    (found : Place) : group.mapM (p.lookUp found) = .ok (group.map found.group?) := by
  cases group with
  | none => rfl
  | some g =>
    rw [Option.mapM_some, lookUp_of_hasGroup (h g rfl)]
    rfl

/-- A rule that is read looks up no group that its pattern does not have. -/
theorem CompiledRule.Reads.checkedCapture_eq {c : CompiledRule} {rule : Rule} (h : c.Reads rule)
    (line : List Char) : c.checkedCapture line = .ok (c.capture line) := by
  unfold checkedCapture capture
  cases hfind : c.pattern.find line with
  | none => rfl
  | some found =>
    have hpath : c.pattern.HasGroup c.pathGroup := by
      obtain ⟨g, hg, hgroup⟩ := h.sound.path
      rw [h.path] at hg
      exact Option.some.inj hg ▸ hgroup
    have hline : c.pattern.HasGroup c.lineGroup := by
      obtain ⟨g, hg, hgroup⟩ := h.sound.line
      rw [h.line] at hg
      exact Option.some.inj hg ▸ hgroup
    -- a group that may be left out is looked up only if the rule names it
    have hcolumn := Pattern.mapM_lookUp (h.column ▸ h.sound.column) found
    have hcontext := Pattern.mapM_lookUp (h.context ▸ h.sound.context) found
    simp only [Pattern.lookUp_of_hasGroup hpath, Pattern.lookUp_of_hasGroup hline, hcolumn,
      hcontext, bind, Except.bind, pure, Except.pure, Option.bind]
    cases found.group? c.pathGroup with
    | none => rfl
    | some path =>
      dsimp only
      split
      · rfl
      cases found.group? c.lineGroup with
      | none => rfl
      | some digits =>
        dsimp only
        cases Text.numeral? Text.largest32 digits with
        | none => rfl
        | some number =>
          dsimp only
          cases c.columnGroup <;> cases c.contextGroup <;> rfl

/-- A rule that was put together without the checks may ask for a group that is not there. -/
example :
    CompiledRule.checkedCapture ⟨.group 1 (.one .any), 1, 2, none, none⟩ ['x'] = .error 2 := by
  decide +kernel

namespace Grammar

/-- A grammar whose rules have been read looks up no group that a pattern does not have. -/
theorem checkedCaptures_eq {g : Grammar} {rules : List Rule}
    (h : List.Forall₂ (fun rule c => c.Reads rule) rules g.rules) (line : String) :
    g.checkedCaptures line = .ok (g.captures line) := by
  simp only [checkedCaptures, captures]
  generalize g.rules = compiled at h
  induction h with
  | nil => rfl
  | cons hc _ ih =>
    rw [List.findSomeM?, hc.checkedCapture_eq, List.findSome?_cons]
    simp only [bind, Except.bind]
    split <;> simp_all [pure, Except.pure]

/-! ## The first defect -/

/-- **Validation.** A definition is read if it has a name, rules, and in each rule a pattern with
all groups that the rule names. Any other definition is refused with the first of its defects,
whatever else is wrong with it. A definition that is read is kept but for the blanks around its
name, and no line makes the grammar look up a group that its pattern does not have. -/
theorem compile_reports_first_defect (d : Definition) :
    ((∃ g, compile d = .ok g) ↔ d.Sound) ∧
      (∀ error, compile d = .error error ↔ d.FirstDefect error) ∧
      ∀ g, compile d = .ok g →
        g.definition = { d with name := Text.trimmed d.name } ∧
          List.Forall₂ (fun rule c => c.Reads rule) d.rules g.rules ∧
          ∀ line, g.checkedCaptures line = .ok (g.captures line) := by
  rcases compile_cases d with ⟨g, hread, hsound, hdefinition, hrules⟩ | ⟨error, hread, hfirst⟩
  · rw [hread]
    refine ⟨iff_of_true ⟨g, rfl⟩ hsound, fun error => iff_of_false (fun h => nomatch h) ?_, ?_⟩
    · intro hfirst
      exact hsound.not_hasDefect error hfirst.defect
    · rintro _ ⟨⟩
      exact ⟨hdefinition, hrules, checkedCaptures_eq hrules⟩
  · rw [hread]
    refine ⟨iff_of_false (fun ⟨g, h⟩ => nomatch h) ?_, fun other => ⟨?_, ?_⟩, fun g h => nomatch h⟩
    · intro hsound
      exact hsound.not_hasDefect error hfirst.defect
    · rintro ⟨⟩
      exact hfirst
    · intro hother
      have heq := Nat.le_antisymm (hfirst.first _ hother.defect) (hother.first _ hfirst.defect)
      rw [hfirst.defect.unique hother.defect heq]

/-- Of three defects in two rules the first one is told, a line group that the second rule leaves
out. The first rule alone is read. -/
theorem missing_line_group_is_told_first :
    let first : Rule := { pattern := "(.+):([0-9]+)", pathGroup := some 1, lineGroup := some 2 }
    let second : Rule := { first with lineGroup := none, columnGroup := some 3 }
    let third : Rule := { first with pattern := "(" }
    let d : Definition := { name := " log ", rules := [first, second, third] }
    d.FirstDefect (.missingLineGroup "log" 1) ∧
      ∃ g, compile { d with rules := [first] } = .ok g ∧ g.name = "log" ∧
        g.checkedCaptures "a.c:7" = .ok (some ⟨"a.c", 7, none, none⟩) := by
  intro first second third d
  have hrefused : (compile d).map name = .error (.missingLineGroup "log" 1) := by decide +kernel
  have hcaptures : (compile { d with rules := [first] }).map (·.captures "a.c:7") =
      .ok (some ⟨"a.c", 7, none, none⟩) := by decide +kernel
  obtain ⟨-, hfirst, -⟩ := compile_reports_first_defect d
  obtain ⟨-, -, hread⟩ := compile_reports_first_defect { d with rules := [first] }
  refine ⟨(hfirst _).mp ?_, ?_⟩
  · cases h : compile d with
    | ok g =>
      rw [h] at hrefused
      cases hrefused
    | error error =>
      rw [h] at hrefused
      exact congrArg _ (Except.error.inj hrefused)
  · cases h : compile { d with rules := [first] } with
    | error error =>
      rw [h] at hcaptures
      cases hcaptures
    | ok g =>
      rw [h] at hcaptures
      obtain ⟨hdefinition, -, hlookUp⟩ := hread g h
      refine ⟨g, rfl, ?_, ?_⟩
      · rw [name, hdefinition]
        decide +kernel
      · rw [hlookUp]
        exact congrArg _ (Except.ok.inj hcaptures)

end Grammar

end TraceScan
