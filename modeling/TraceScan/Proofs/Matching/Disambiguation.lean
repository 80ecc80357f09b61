import TraceScan.Matching
import TraceScan.Proofs.Registry.Reachable

/-!
# Who owns a line

The grammars that capture a line compete for it. The winner is the first grammar that has the class
of the leader and claims the line, or the leader if there is none. A matcher stops looking where the
leading class ends and does not ask a lone candidate; `matchInSequence_eq_bind` says that this makes
no difference, because the matching order keeps the grammars of one class together.
-/

namespace TraceScan

/-! ## Lists that are grouped by class -/

/-- The grammars of one class stand together: the list rises in some rank of the classes. -/
def Grouped (gs : List Grammar) : Prop :=
  ∃ rank : GrammarClass → Nat, Function.Injective rank ∧
    gs.Pairwise fun g h => rank g.grammarClass ≤ rank h.grammarClass

/-- What is left of a grouped list is grouped. -/
theorem Grouped.sublist {gs hs : List Grammar} (h : Grouped gs) (hsub : hs.Sublist gs) :
    Grouped hs := by
  obtain ⟨rank, hinj, hsorted⟩ := h
  exact ⟨rank, hinj, hsorted.sublist hsub⟩

/-- What stands between the leader of a grouped list and a grammar of its class has that class. -/
theorem Grouped.pairwise_class {leader : Grammar} {others : List Grammar}
    (h : Grouped (leader :: others)) :
    (leader :: others).Pairwise fun x y =>
      (y.grammarClass == leader.grammarClass) = true →
        (x.grammarClass == leader.grammarClass) = true := by
  obtain ⟨rank, hinj, hsorted⟩ := h
  have hleast := (List.pairwise_cons.mp hsorted).1
  refine hsorted.imp_of_mem ?_
  intro x y hx _ hxy hy
  rw [beq_iff_eq] at hy ⊢
  rcases List.mem_cons.mp hx with rfl | hx
  · rfl
  · rw [hy] at hxy
    exact hinj (le_antisymm hxy (hleast x hx))

/-- The matching order of a well-formed registry is grouped by class. -/
theorem Registry.WellFormed.grouped_ordered {r : Registry} (hr : r.WellFormed) :
    Grouped r.ordered :=
  ⟨r.rank, fun _ _ => hr.rank_inj.mp, hr.inOrder.pairwise_rank_ordered⟩

/-! ## The owner -/

/-- Whether a grammar claims the line that a window surrounds. -/
def Grammar.claims (g : Grammar) (window : Window) : Bool :=
  g.contextMatch window.lines window.index == some true

/-- The grammar that wins among those that capture a line: the first one that has the class of the
leader and claims the line, or else the leader. -/
def owner? (window : Window) : List Grammar → Option Grammar
  | [] => none
  | leader :: others =>
    some (((leader :: others).find? fun g =>
      g.grammarClass == leader.grammarClass && g.claims window).getD leader)

/-- There is an owner unless nobody competes. -/
theorem owner?_eq_none_iff {window : Window} {gs : List Grammar} :
    owner? window gs = none ↔ gs = [] := by
  cases gs <;> simp [owner?]

/-- The owner is a competitor, and it has the class of the leader. -/
theorem mem_and_class_of_owner? {window : Window} {gs : List Grammar} {g : Grammar}
    (h : owner? window gs = some g) :
    g ∈ gs ∧ ∃ leader, gs.head? = some leader ∧ g.grammarClass = leader.grammarClass := by
  cases gs with
  | nil => simp [owner?] at h
  | cons leader others =>
    rw [owner?, Option.some.injEq] at h
    cases hfind : (leader :: others).find? fun g =>
        g.grammarClass == leader.grammarClass && g.claims window with
    | none =>
      rw [hfind, Option.getD_none] at h
      subst h
      exact ⟨List.mem_cons_self, leader, rfl, rfl⟩
    | some k =>
      rw [hfind, Option.getD_some] at h
      subst h
      have hk := List.find?_some hfind
      rw [Bool.and_eq_true, beq_iff_eq] at hk
      exact ⟨List.mem_of_find?_eq_some hfind, leader, rfl, hk.1⟩

/-! ## Candidates -/

/-- Looking up to the end of a prefix finds what looking for both properties finds, if nothing
behind the prefix has the first property. -/
theorem find?_takeWhile {α : Type} (p q : α → Bool) {l : List α}
    (hl : l.Pairwise fun x y => p y = true → p x = true) :
    (l.takeWhile p).find? q = l.find? fun x => p x && q x := by
  induction l with
  | nil => rfl
  | cons a l ih =>
    rw [List.pairwise_cons] at hl
    by_cases hp : p a = true
    · rw [List.takeWhile_cons_of_pos hp, List.find?_cons, List.find?_cons, ih hl.2]
      simp [hp]
    · have hnone : ∀ x ∈ a :: l, ¬ (p x && q x) = true := by
        intro x hx
        rcases List.mem_cons.mp hx with rfl | hx
        · simp [hp]
        · have hpx : ¬ p x = true := fun hpx => hp (hl.1 x hx hpx)
          simp [hpx]
      rw [List.takeWhile_cons_of_neg hp, List.find?_nil, List.find?_eq_none.mpr hnone]

namespace Matcher

variable (m : Matcher)

/-- The rule for a lone candidate makes no difference. -/
theorem choose_cons (window : Window) (leader : Grammar × Capture)
    (others : List (Grammar × Capture)) :
    choose window (leader :: others) =
      some ((((leader :: others).takeWhile (·.1.grammarClass == leader.1.grammarClass)).find?
        (·.1.claims window)).getD leader) := by
  cases others with
  | nil =>
    rw [choose]
    by_cases hc : leader.1.claims window = true <;> simp [hc]
  | cons second others => rfl

/-- The choice is one of the candidates. -/
theorem mem_of_choose {window : Window} {candidates : List (Grammar × Capture)}
    {candidate : Grammar × Capture} (h : choose window candidates = some candidate) :
    candidate ∈ candidates := by
  cases candidates with
  | nil => simp [choose] at h
  | cons leader others =>
    rw [choose_cons, Option.some.injEq] at h
    cases hfind : ((leader :: others).takeWhile
        (·.1.grammarClass == leader.1.grammarClass)).find? (·.1.claims window) with
    | none =>
      rw [hfind, Option.getD_none] at h
      simp [h]
    | some c =>
      rw [hfind, Option.getD_some] at h
      rw [← h]
      exact (List.takeWhile_prefix _).subset (List.mem_of_find?_eq_some hfind)

/-- **Choice.** Of candidates that are grouped by class, the choice is the owner. -/
theorem map_fst_choose (window : Window) {candidates : List (Grammar × Capture)}
    (h : Grouped (candidates.map Prod.fst)) :
    (choose window candidates).map Prod.fst = owner? window (candidates.map Prod.fst) := by
  cases candidates with
  | nil => rfl
  | cons leader others =>
    have hclass : (leader :: others).Pairwise fun x y =>
        (y.1.grammarClass == leader.1.grammarClass) = true →
          (x.1.grammarClass == leader.1.grammarClass) = true := by
      have hmap := h.pairwise_class
      rw [← List.map_cons, List.pairwise_map] at hmap
      exact hmap
    rw [choose_cons, find?_takeWhile _ _ hclass, List.map_cons, owner?, ← List.map_cons,
      List.find?_map, Option.map_some, Option.some.injEq]
    simp only [Function.comp_def]
    cases (leader :: others).find? fun x =>
      x.1.grammarClass == leader.1.grammarClass && x.1.claims window <;> rfl

/-- The grammars that capture a line, in the order in which they are tried. -/
def capturing (line : String) : List Grammar :=
  m.grammars.filter fun g => (g.captures line).isSome

/-- The location that a grammar finds in a line. -/
def locateBy (g : Grammar) (cwd : Option String) (line : String) (position : Nat) :
    Option Location :=
  (g.captures line).map fun capture => m.locate g capture cwd line position

/-- A capturing grammar finds a location. -/
theorem locateBy_of_mem_capturing {g : Grammar} {line : String} (h : g ∈ m.capturing line)
    (cwd : Option String) (position : Nat) :
    ∃ capture, g.captures line = some capture ∧
      m.locateBy g cwd line position = some (m.locate g capture cwd line position) := by
  obtain ⟨capture, hcapture⟩ := Option.isSome_iff_exists.mp (List.mem_filter.mp h).2
  exact ⟨capture, hcapture, by rw [locateBy, hcapture, Option.map_some]⟩

/-- The candidates are the capturing grammars. -/
theorem map_fst_candidates (line : String) :
    (m.candidates line).map Prod.fst = m.capturing line := by
  rw [candidates, capturing]
  induction m.grammars with
  | nil => rfl
  | cons g gs ih =>
    rw [List.filterMap_cons, List.filter_cons]
    cases hg : g.captures line with
    | none => simpa using ih
    | some capture => simpa using ih

/-- A candidate comes with what its grammar captures. -/
theorem captures_of_mem_candidates {line : String} {candidate : Grammar × Capture}
    (h : candidate ∈ m.candidates line) :
    candidate.1.captures line = some candidate.2 := by
  obtain ⟨g, -, hg⟩ := List.mem_filterMap.mp h
  obtain ⟨capture, hcapture, rfl⟩ := Option.map_eq_some_iff.mp hg
  exact hcapture

/-- A candidate is one of the grammars. -/
theorem mem_of_mem_candidates {line : String} {candidate : Grammar × Capture}
    (h : candidate ∈ m.candidates line) : candidate.1 ∈ m.grammars := by
  obtain ⟨g, hg, hcandidate⟩ := List.mem_filterMap.mp h
  obtain ⟨capture, -, rfl⟩ := Option.map_eq_some_iff.mp hcandidate
  exact hg

/-- The choice among the candidates of a line stands for what its owner finds in the line. -/
theorem map_choose_candidates (h : Grouped m.grammars) (window : Window) (cwd : Option String)
    (line : String) (position : Nat) :
    (choose window (m.candidates line)).map (fun c => m.locate c.1 c.2 cwd line position) =
      (owner? window (m.capturing line)).bind fun g => m.locateBy g cwd line position := by
  have hgrouped : Grouped ((m.candidates line).map Prod.fst) := by
    rw [map_fst_candidates]
    exact h.sublist List.filter_sublist
  rw [← map_fst_candidates, ← map_fst_choose window hgrouped]
  cases hc : choose window (m.candidates line) with
  | none => rfl
  | some c =>
    have hcapture := m.captures_of_mem_candidates (mem_of_choose hc)
    simp [locateBy, hcapture]

/-! ## The location of a line -/

/-- **Sequences.** In a sequence a line that is not empty gets the location that its owner finds
in it. -/
theorem matchInSequence_eq_bind (h : Grouped m.grammars) (lines : List String) (index : Nat)
    (cwd : Option String) (position : Nat) :
    m.matchInSequence lines index cwd position =
      lines[index]?.bind fun line =>
        if line.isEmpty then none
        else (owner? (Window.around lines index m.window) (m.capturing line)).bind
          fun g => m.locateBy g cwd line position := by
  unfold matchInSequence
  cases hline : lines[index]? with
  | none => rfl
  | some line =>
    rw [Option.bind_some, ← m.map_choose_candidates h, Option.map_eq_bind]
    rfl

/-- **Lone lines.** Alone, a line whose visible text is not empty gets the location that the first
capturing grammar finds in that text. -/
theorem matchLine_eq_bind (line : String) (cwd : Option String) :
    m.matchLine line cwd =
      if (strip line).isEmpty then none
      else (m.capturing (strip line)).head?.bind fun g => m.locateBy g cwd (strip line) 1 := by
  unfold matchLine
  by_cases hempty : (strip line).isEmpty = true
  · simp [hempty]
  · simp only [hempty]
    rw [capturing, List.head?_filter]
    induction m.grammars with
    | nil => rfl
    | cons g gs ih =>
      cases hg : g.captures (strip line) with
      | none => simpa [hg] using ih
      | some capture => simp [hg, locateBy]

/-- In a sequence, a line that is not empty gets the location of the choice among its candidates. -/
theorem matchInSequence_eq_choose {lines : List String} {index : Nat} {line : String}
    (hline : lines[index]? = some line) (hne : line ≠ "") (cwd : Option String) (position : Nat) :
    m.matchInSequence lines index cwd position =
      (choose (Window.around lines index m.window) (m.candidates line)).map fun c =>
        m.locate c.1 c.2 cwd line position := by
  have hempty : ¬ line.isEmpty = true := by simpa using hne
  rw [matchInSequence, hline, Option.map_eq_bind]
  exact if_neg hempty

/-- Alone, a line whose visible text is not empty gets the location of its first candidate. -/
theorem matchLine_eq_head? (line : String) (cwd : Option String) :
    m.matchLine line cwd =
      if (strip line).isEmpty then none
      else (m.candidates (strip line)).head?.map fun c => m.locate c.1 c.2 cwd (strip line) 1 := by
  rw [matchLine, candidates, List.head?_filterMap, List.map_findSome?]
  simp [Function.comp_def]

end Matcher

/-! ## The law of disambiguation -/

/-- The matcher for the grammars of a registry. -/
def Registry.matcher (r : Registry) (window : Nat) (home : Option String) : Matcher :=
  ⟨r.ordered, window, home⟩

/-- The window around a line whose far end is a 64-bit word: the lines at most `width` away. -/
theorem Window.around_eq {lines : List String} {index width : Nat}
    (h : index + width < UInt64.size) :
    Window.around lines index width =
      ⟨lines.extract (index - width) (min (index + width) (lines.length - 1) + 1),
        index - (index - width)⟩ := by
  rw [Window.around, Nat.mod_eq_of_lt h, List.extract]

/-- **The law of disambiguation.** A line of a sequence gets no location when no grammar captures
it. Else its location is that of the first grammar in the matching order, among all that capture
the line, which has the class of the first of them and claims the line in the lines at most `w`
away; where there is no such grammar, it is that of the first of them. -/
theorem matchInSequence_disambiguates {r : Registry} (hr : r.Reachable) (home : Option String)
    (lines : List String) {i : Nat} {line : String} (hline : lines[i]? = some line)
    (hne : line ≠ "") {w : Nat} (hw : i + w < UInt64.size) (cwd : Option String) (position : Nat) :
    let m := r.matcher w home
    let capturing := r.ordered.filter fun g => (g.captures line).isSome
    let view := lines.extract (i - w) (min (i + w) (lines.length - 1) + 1)
    (m.matchInSequence lines i cwd position = none ↔ capturing = []) ∧
      ∀ leader others, capturing = leader :: others →
        let winner := (capturing.find? fun g => g.grammarClass == leader.grammarClass &&
          g.contextMatch view (i - (i - w)) == some true).getD leader
        winner ∈ capturing ∧ ∃ capture, winner.captures line = some capture ∧
          m.matchInSequence lines i cwd position =
            some (m.locate winner capture cwd line position) := by
  intro m capturing view
  have hempty : ¬ line.isEmpty = true := by simpa using hne
  have hmatch : m.matchInSequence lines i cwd position =
      (owner? ⟨view, i - (i - w)⟩ capturing).bind fun g => m.locateBy g cwd line position := by
    rw [m.matchInSequence_eq_bind hr.wellFormed.grouped_ordered, hline, Option.bind_some,
      if_neg hempty, ← Window.around_eq hw]
    rfl
  constructor
  · rw [hmatch]
    cases howner : owner? ⟨view, i - (i - w)⟩ capturing with
    | none => exact iff_of_true rfl (owner?_eq_none_iff.mp howner)
    | some g =>
      have hmem := (mem_and_class_of_owner? howner).1
      obtain ⟨capture, -, hsome⟩ := m.locateBy_of_mem_capturing hmem cwd position
      rw [Option.bind_some, hsome]
      exact iff_of_false (Option.some_ne_none _) (List.ne_nil_of_mem hmem)
  · intro leader others hcons winner
    have howner : owner? ⟨view, i - (i - w)⟩ capturing = some winner := by
      rw [hcons, owner?]
      simp only [winner, hcons]
      rfl
    have hmem : winner ∈ capturing := (mem_and_class_of_owner? howner).1
    obtain ⟨capture, hcapture, hsome⟩ := m.locateBy_of_mem_capturing hmem cwd position
    refine ⟨hmem, capture, hcapture, ?_⟩
    rw [hmatch, howner, Option.bind_some, hsome]

/-- Behind its cue, a note belongs to the grammar that claims it and not to the one that leads. -/
theorem note_behind_cue :
    ∃ l, (Registry.notes.matcher 1 (some "/home")).matchInSequence ["two", "todo:8"] 1 none 2 =
        some l ∧
      l.grammar = "second" := by
  let capturing := Registry.notes.ordered.filter fun g => (g.captures "todo:8").isSome
  let winner := fun leader : Grammar => (capturing.find? fun g =>
    g.grammarClass == leader.grammarClass && g.contextMatch ["two", "todo:8"] 1 == some true).getD
      leader
  have hwinner : (capturing.head?.map fun leader => (winner leader).name) = some "second" := by
    decide +kernel
  obtain ⟨leader, hleader, hname⟩ := Option.map_eq_some_iff.mp hwinner
  obtain ⟨others, hcons⟩ := List.head?_eq_some_iff.mp hleader
  obtain ⟨-, h⟩ := matchInSequence_disambiguates Registry.reachable_notes (some "/home")
    ["two", "todo:8"] (i := 1) rfl (by decide) (w := 1) (by decide) none 2
  obtain ⟨-, capture, -, hl⟩ := h leader others hcons
  exact ⟨_, hl, hname⟩

end TraceScan
