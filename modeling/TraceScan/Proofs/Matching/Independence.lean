import TraceScan.Proofs.Matching.Disambiguation
import TraceScan.Proofs.Registry.Registrations

/-!
# Grammars that do not win do not matter

Taking away grammars other than the one that found a location does not change the location, and a
line that gets no location gets none from fewer grammars. What a new grammar changes is therefore
its own doing: `other_grammars_irrelevant`.
-/

namespace TraceScan

/-! ## Owners among fewer competitors -/

/-- The first element with a property stays the first among those that pass a filter. -/
theorem find?_filter_of_find? {α : Type} {p q : α → Bool} {l : List α} {a : α}
    (h : l.find? q = some a) (hp : p a = true) : (l.filter p).find? q = some a := by
  induction l with
  | nil => simp at h
  | cons b l ih =>
    by_cases hq : q b = true
    · rw [List.find?_cons_of_pos hq, Option.some.injEq] at h
      subst h
      rw [List.filter_cons_of_pos hp, List.find?_cons_of_pos hq]
    · rw [List.find?_cons_of_neg hq] at h
      by_cases hpb : p b = true
      · rw [List.filter_cons_of_pos hpb, List.find?_cons_of_neg hq, ih h]
      · rw [List.filter_cons_of_neg hpb, ih h]

/-- The leader of fewer competitors has the class of the old leader, if some competitor of that
class is left. -/
theorem Grouped.class_head?_filter {leader : Grammar} {others : List Grammar}
    (h : Grouped (leader :: others)) {p : Grammar → Bool} {g : Grammar}
    (hg : g ∈ (leader :: others).filter p) (hclass : g.grammarClass = leader.grammarClass) :
    ∃ first rest, (leader :: others).filter p = first :: rest ∧
      first.grammarClass = leader.grammarClass := by
  cases hfilter : (leader :: others).filter p with
  | nil =>
    rw [hfilter] at hg
    cases hg
  | cons first rest =>
    refine ⟨first, rest, rfl, ?_⟩
    have hpair : ((leader :: others).filter p).Pairwise fun x y =>
        (y.grammarClass == leader.grammarClass) = true →
          (x.grammarClass == leader.grammarClass) = true :=
      h.pairwise_class.sublist List.filter_sublist
    rw [hfilter, List.pairwise_cons] at hpair
    rw [hfilter] at hg
    rcases List.mem_cons.mp hg with rfl | hg
    · exact hclass
    · exact beq_iff_eq.mp (hpair.1 g hg (beq_iff_eq.mpr hclass))

/-- **Owners.** An owner that passes a filter is the owner among those that pass it. -/
theorem owner?_filter {gs : List Grammar} (hgs : Grouped gs) {window : Window}
    {p : Grammar → Bool} {g : Grammar} (h : owner? window gs = some g) (hp : p g = true) :
    owner? window (gs.filter p) = some g := by
  cases gs with
  | nil => simp [owner?] at h
  | cons leader others =>
    obtain ⟨hmem, _, hhead, hclass⟩ := mem_and_class_of_owner? h
    cases hhead
    obtain ⟨first, rest, hfilter, hfirst⟩ :=
      hgs.class_head?_filter (List.mem_filter.mpr ⟨hmem, hp⟩) hclass
    rw [owner?, Option.some.injEq] at h
    rw [hfilter, owner?, ← hfilter, hfirst, Option.some.injEq]
    cases hfind : (leader :: others).find? fun g =>
        g.grammarClass == leader.grammarClass && g.claims window with
    | some k =>
      rw [hfind, Option.getD_some] at h
      subst h
      rw [find?_filter_of_find? hfind hp, Option.getD_some]
    | none =>
      -- nobody claims the line, so the owner is the old leader, which is still in front
      rw [hfind, Option.getD_none] at h
      subst h
      rw [List.filter_cons_of_pos hp] at hfilter
      have hnone : ((leader :: others).filter p).find? (fun g =>
          g.grammarClass == leader.grammarClass && g.claims window) = none := by
        rw [List.find?_eq_none] at hfind ⊢
        exact fun x hx => hfind x (List.mem_filter.mp hx).1
      rw [hnone, Option.getD_none]
      exact (List.cons.inj hfilter).1.symm

/-! ## Matchers without a grammar -/

/-- Whether a location was found, and by the grammar of the given name. -/
def FoundBy (name : String) (location : Option Location) : Prop :=
  ∃ l, location = some l ∧ l.grammar = name

namespace Matcher

variable (m : Matcher)

/-- The matcher without the grammars of the given name. -/
def without (name : String) : Matcher :=
  { m with grammars := m.grammars.filter (·.name != name) }

/-- The capturing grammars of other names. -/
theorem capturing_without (name line : String) :
    (m.without name).capturing line = (m.capturing line).filter (·.name != name) := by
  rw [capturing, capturing, without, List.filter_filter, List.filter_filter]
  exact List.filter_congr fun g _ => Bool.and_comm _ _

/-- A winner that stays the winner without the grammar `name` finds what it found. -/
theorem bind_locateBy_eq {winner winner' : Option Grammar} {name line : String}
    (hmem : ∀ g, winner = some g → g ∈ m.capturing line)
    (hnone : winner = none → winner' = none)
    (hsome : ∀ g, winner = some g → g.name ≠ name → winner' = some g)
    {cwd : Option String} {position : Nat}
    (h : ¬ FoundBy name (winner.bind fun g => m.locateBy g cwd line position)) :
    (winner'.bind fun g => (m.without name).locateBy g cwd line position) =
      winner.bind fun g => m.locateBy g cwd line position := by
  cases winner with
  | none => rw [hnone rfl, Option.bind_none, Option.bind_none]
  | some g =>
    obtain ⟨capture, -, hl⟩ := m.locateBy_of_mem_capturing (hmem g rfl) cwd position
    have hne : g.name ≠ name := by
      intro heq
      exact h ⟨_, hl, heq⟩
    rw [hsome g rfl hne]
    rfl

/-- **Sequences.** Without a grammar that did not find it, the location of a line in a sequence is
what it was. -/
theorem matchInSequence_without (hm : Grouped m.grammars) {name : String} {lines : List String}
    {index : Nat} {cwd : Option String} {position : Nat}
    (h : ¬ FoundBy name (m.matchInSequence lines index cwd position)) :
    (m.without name).matchInSequence lines index cwd position =
      m.matchInSequence lines index cwd position := by
  rw [m.matchInSequence_eq_bind hm] at h ⊢
  rw [(m.without name).matchInSequence_eq_bind (hm.sublist List.filter_sublist)]
  cases hline : lines[index]? with
  | none => rfl
  | some line =>
    rw [hline, Option.bind_some] at h
    rw [Option.bind_some, Option.bind_some]
    by_cases hempty : line.isEmpty = true
    · rw [if_pos hempty, if_pos hempty]
    · rw [if_neg hempty] at h ⊢
      rw [if_neg hempty, capturing_without]
      apply m.bind_locateBy_eq _ _ _ h
      · exact fun g hg => (mem_and_class_of_owner? hg).1
      · intro hnone
        rw [owner?_eq_none_iff.mp hnone]
        rfl
      · intro g hg hne
        exact owner?_filter (hm.sublist List.filter_sublist) hg (by simpa using hne)

/-- **Lone lines.** Without a grammar that did not find it, the location of a lone line is what it
was. -/
theorem matchLine_without {name line : String} {cwd : Option String}
    (h : ¬ FoundBy name (m.matchLine line cwd)) :
    (m.without name).matchLine line cwd = m.matchLine line cwd := by
  rw [m.matchLine_eq_bind] at h ⊢
  rw [(m.without name).matchLine_eq_bind]
  by_cases hempty : (strip line).isEmpty = true
  · rw [if_pos hempty, if_pos hempty]
  · rw [if_neg hempty] at h ⊢
    rw [if_neg hempty, capturing_without]
    apply m.bind_locateBy_eq _ _ _ h
    · exact fun g hg => List.mem_of_head? hg
    · intro hnone
      rw [List.head?_eq_none_iff.mp hnone]
      rfl
    · intro g hg hne
      obtain ⟨others, hcons⟩ := List.head?_eq_some_iff.mp hg
      rw [hcons, List.filter_cons_of_pos (by simpa using hne), List.head?_cons]

end Matcher

/-! ## Registries -/

namespace Registry

/-- A removal takes a grammar from the matcher and changes nothing else about it. -/
theorem WellFormed.matcher_unregister {r r' : Registry} (hr : r.WellFormed) {name : String}
    (h : r.unregister? name = some r') (window : Nat) (home : Option String) :
    r'.matcher window home = (r.matcher window home).without name := by
  rw [hr.unregister?_eq_some h, matcher, hr.inOrder.ordered_reorder_filter]
  rfl

end Registry

/-! ## Irrelevant grammars -/

/-- **Other grammars are irrelevant.** Removing a grammar changes only the locations that it found:
the other lines, alone or in a sequence, keep their locations, and lines without a location get
none. A new grammar changes a location only by finding the new one itself. -/
theorem other_grammars_irrelevant {r : Registry} (hr : r.Reachable) (w : Nat)
    (home : Option String) :
    (∀ name r', r.unregister? name = some r' →
      (∀ lines i cwd position,
        ¬ FoundBy name ((r.matcher w home).matchInSequence lines i cwd position) →
        (r'.matcher w home).matchInSequence lines i cwd position =
          (r.matcher w home).matchInSequence lines i cwd position) ∧
      ∀ line cwd, ¬ FoundBy name ((r.matcher w home).matchLine line cwd) →
        (r'.matcher w home).matchLine line cwd = (r.matcher w home).matchLine line cwd) ∧
    ∀ d r', r.register d = .ok r' →
      (∀ lines i cwd position,
        (r'.matcher w home).matchInSequence lines i cwd position =
          (r.matcher w home).matchInSequence lines i cwd position ∨
        FoundBy (Text.trimmed d.name)
          ((r'.matcher w home).matchInSequence lines i cwd position)) ∧
      ∀ line cwd,
        (r'.matcher w home).matchLine line cwd = (r.matcher w home).matchLine line cwd ∨
        FoundBy (Text.trimmed d.name) ((r'.matcher w home).matchLine line cwd) := by
  have hwf := hr.wellFormed
  constructor
  · intro name r' h
    rw [hwf.matcher_unregister h]
    exact ⟨fun lines i cwd position => (r.matcher w home).matchInSequence_without
      hwf.grouped_ordered, fun line cwd => (r.matcher w home).matchLine_without⟩
  · intro d r' h
    -- the old registry is the new one without the new grammar
    have hwf' := hwf.register h
    rw [hwf'.matcher_unregister (hwf.unregister?_register h) w home]
    constructor
    · intro lines i cwd position
      rw [or_iff_not_imp_right]
      intro hfound
      exact ((r'.matcher w home).matchInSequence_without hwf'.grouped_ordered hfound).symm
    · intro line cwd
      rw [or_iff_not_imp_right]
      intro hfound
      exact ((r'.matcher w home).matchLine_without hfound).symm

/-- A note that the second grammar found stays as it is without the first one. -/
theorem note_without_first :
    ((Registry.notes.apply (.unregister "first")).matcher 1 (some "/home")).matchInSequence
        ["two", "todo:8"] 1 none 2 =
      (Registry.notes.matcher 1 (some "/home")).matchInSequence ["two", "todo:8"] 1 none 2 := by
  have hcontains : Registry.notes.contains "first" = true := by decide +kernel
  have hsecond : ((Registry.notes.matcher 1 (some "/home")).matchInSequence
      ["two", "todo:8"] 1 none 2).map Location.grammar = some "second" := by decide +kernel
  have hremoved : Registry.notes.unregister? "first" =
      some (Registry.notes.apply (.unregister "first")) := by
    rw [Registry.apply, Registry.unregister?, if_pos hcontains, Option.getD_some]
  refine ((other_grammars_irrelevant Registry.reachable_notes 1 (some "/home")).1 "first" _
    hremoved).1 _ 1 none 2 ?_
  rintro ⟨l, hl, hname⟩
  rw [hl, Option.map_some, hname] at hsecond
  exact absurd hsecond (by decide)

end TraceScan
