import Mathlib.Data.List.TakeWhile
import TraceScan.Pattern.Reader
import TraceScan.Proofs.Pattern.Diagnostics

/-!
# Texts inside patterns

Most of a pattern for one line of a trace is fixed text, with groups in between. The module names
such patterns by the texts in them (`lead`, `literally`, `oneOf`) and says how they are read. A
group takes the part of the line that its pattern takes and behind which the rest of the pattern can
be read at all, if there is only one such part: `run_group_of_unique`. A search finds the first
place where the pattern can be read: `exists_run_of_searchFrom`.
-/

namespace TraceScan

/-! ## Cuts -/

/-- A text that is cut at some character is cut at the last one, or before that. -/
theorem append_last_cut_cases {cut : Char} {a b a' b' : List Char} (hb : cut ∉ b)
    (h : a ++ cut :: b = a' ++ cut :: b') :
    (a = a' ∧ b = b') ∨ ∃ between, a = a' ++ cut :: between ∧ b' = between ++ cut :: b := by
  rcases List.append_eq_append_iff.mp h with ⟨more, rfl, hmore⟩ | ⟨more, rfl, hmore⟩
  · cases more with
    | nil => exact Or.inl ⟨by simp, by simpa using hmore⟩
    | cons c more =>
      obtain ⟨-, rfl⟩ := List.cons.inj hmore
      exact absurd (by simp) hb
  · cases more with
    | nil => exact Or.inl ⟨by simp, by simpa using hmore.symm⟩
    | cons c more =>
      obtain ⟨rfl, hrest⟩ := List.cons.inj hmore
      exact Or.inr ⟨more, rfl, hrest⟩

/-- A text that is cut at some character which is in neither rest is cut in one way. -/
theorem eq_of_append_cut {cut : Char} {a a' b b' : List Char} (hb : cut ∉ b) (hb' : cut ∉ b')
    (h : a ++ cut :: b = a' ++ cut :: b') : a = a' ∧ b = b' := by
  rcases append_last_cut_cases hb h with heq | ⟨between, -, rfl⟩
  · exact heq
  · exact absurd (by simp) hb'

/-- The characters that do not break a line. -/
def CharSet.inLine : CharSet :=
  .compl (.single '\n')

/-- All characters but one do not break a line. -/
theorem CharSet.mem_inLine {c : Char} : inLine.mem c = true ↔ c ≠ '\n' := by
  rw [inLine, mem, Bool.not_eq_true', ← Bool.not_eq_true, mem_single]

namespace Pattern

variable {α : Type}

/-! ## Patterns by their texts -/

/-- A text as a pattern. -/
def literally (s : List Char) : Pattern :=
  seqOf (s.map fun c => one (.single c))

/-- One of some texts, the earlier ones preferred. -/
def oneOf (texts : List (List Char)) : Pattern :=
  altOf (texts.map literally)

/-- A text and then a pattern. -/
def lead (s : List Char) (p : Pattern) : Pattern :=
  s.foldr (fun c q => seq (one (.single c)) q) p

/-- One or more characters of a set. -/
def oneOrMore (set : CharSet) (greedy : Bool) : Pattern :=
  seq (one set) (span set greedy)

/-! ## Ways -/

/-- A character as a pattern takes that character. -/
theorem way_single_iff {c : Char} {s t : Place} :
    Way (one (.single c)) s t ↔
      ∃ rest, s.rest = c :: rest ∧ t = ⟨c :: s.before, rest, s.groups⟩ := by
  constructor
  · rintro ⟨d, rest, hrest, hd, rfl⟩
    obtain rfl := CharSet.mem_single.mp hd
    exact ⟨rest, hrest, rfl⟩
  · rintro ⟨rest, hrest, rfl⟩
    exact ⟨c, rest, hrest, CharSet.mem_single.mpr rfl, rfl⟩

/-- A text and then a pattern take the text first. -/
theorem way_lead_iff {p : Pattern} (s : List Char) {u t : Place} :
    Way (lead s p) u t ↔
      ∃ rest, u.rest = s ++ rest ∧ Way p ⟨s.reverse ++ u.before, rest, u.groups⟩ t := by
  induction s generalizing u with
  | nil =>
    constructor
    · intro h
      exact ⟨u.rest, rfl, h⟩
    · rintro ⟨rest, hrest, h⟩
      obtain rfl : u.rest = rest := hrest
      exact h
  | cons c s ih =>
    constructor
    · rintro ⟨m, hc, hmt⟩
      obtain ⟨rest, hrest, rfl⟩ := way_single_iff.mp hc
      obtain ⟨rest', hrest', hway⟩ := ih.mp hmt
      obtain rfl : rest = s ++ rest' := hrest'
      exact ⟨rest', hrest, by simpa using hway⟩
    · rintro ⟨rest, hrest, hway⟩
      exact ⟨_, way_single_iff.mpr ⟨s ++ rest, hrest, rfl⟩, ih.mpr ⟨rest, rfl, by simpa using hway⟩⟩

/-- A text as a pattern takes that text. -/
theorem way_literally_iff (s : List Char) {u t : Place} :
    Way (literally s) u t ↔
      ∃ rest, u.rest = s ++ rest ∧ t = ⟨s.reverse ++ u.before, rest, u.groups⟩ := by
  induction s generalizing u with
  | nil =>
    constructor
    · intro h
      exact ⟨u.rest, rfl, h⟩
    · rintro ⟨rest, hrest, h⟩
      obtain rfl : u.rest = rest := hrest
      exact h
  | cons c s ih =>
    cases s with
    | nil => exact way_single_iff
    | cons d s =>
      constructor
      · rintro ⟨m, hc, hmt⟩
        obtain ⟨rest, hrest, rfl⟩ := way_single_iff.mp hc
        obtain ⟨rest', hrest', rfl⟩ := ih.mp hmt
        obtain rfl : rest = d :: s ++ rest' := hrest'
        exact ⟨rest', hrest, by simp⟩
      · rintro ⟨rest, hrest, rfl⟩
        exact ⟨_, way_single_iff.mpr ⟨d :: s ++ rest, hrest, rfl⟩, ih.mpr ⟨rest, rfl, by simp⟩⟩

/-- One of some texts is taken by taking one of them. -/
theorem way_oneOf_iff {texts : List (List Char)} (hne : texts ≠ []) {u t : Place} :
    Way (oneOf texts) u t ↔ ∃ s ∈ texts, Way (literally s) u t := by
  induction texts with
  | nil => exact absurd rfl hne
  | cons s texts ih =>
    cases texts with
    | nil => simp [oneOf, altOf]
    | cons s' texts =>
      rw [List.exists_mem_cons_iff, ← ih (by simp)]
      rfl

/-- What one or more characters of a set take. -/
theorem way_oneOrMore_iff {set : CharSet} {greedy : Bool} {u t : Place} :
    Way (oneOrMore set greedy) u t ↔
      ∃ used rest, used ≠ [] ∧ u.rest = used ++ rest ∧ (∀ c ∈ used, set.mem c = true) ∧
        t = ⟨used.reverse ++ u.before, rest, u.groups⟩ := by
  constructor
  · rintro ⟨m, ⟨c, rest, hrest, hc, rfl⟩, used, rest', hrest', hused, rfl⟩
    obtain rfl : rest = used ++ rest' := hrest'
    exact ⟨c :: used, rest', by simp, hrest, List.forall_mem_cons.mpr ⟨hc, hused⟩, by simp⟩
  · rintro ⟨used, rest, hne, hrest, hused, rfl⟩
    obtain ⟨c, used, rfl⟩ := List.exists_cons_of_ne_nil hne
    obtain ⟨hc, hused⟩ := List.forall_mem_cons.mp hused
    exact ⟨_, ⟨c, used ++ rest, hrest, hc, rfl⟩, used, rest, rfl, hused, by simp⟩

/-- A text and then a pattern take the text and then what the pattern takes. -/
theorem takes_lead (s : List Char) {p : Pattern} {text : List Char} (hp : p.Takes text) :
    (lead s p).Takes (s ++ text) := by
  intro before rest groups
  refine (way_lead_iff s).mpr ⟨text ++ rest, List.append_assoc s text rest, ?_⟩
  simpa using hp (s.reverse ++ before) rest groups

/-- One or more characters of a set take such a text. -/
theorem takes_oneOrMore {set : CharSet} {greedy : Bool} {text : List Char} (hne : text ≠ [])
    (h : ∀ c ∈ text, set.mem c = true) : (oneOrMore set greedy).Takes text :=
  fun _ rest _ => way_oneOrMore_iff.mpr ⟨text, rest, hne, rfl, h, rfl⟩

/-- A way through a text and then a pattern goes on behind the text. -/
theorem Way.of_lead {p : Pattern} {s : List Char} {u t : Place} (h : Way (lead s p) u t) :
    ∃ m, Way p m t ∧ u.rest = s ++ m.rest ∧ m.groups = u.groups := by
  obtain ⟨rest, hrest, hway⟩ := (way_lead_iff s).mp h
  exact ⟨_, hway, hrest, rfl⟩

/-- A way through a text leads behind it. -/
theorem Way.of_literally {s : List Char} {u t : Place} (h : Way (literally s) u t) :
    u.rest = s ++ t.rest ∧ t.groups = u.groups := by
  obtain ⟨rest, hrest, rfl⟩ := (way_literally_iff s).mp h
  exact ⟨hrest, rfl⟩

/-- A way through one or more characters of a set leads behind them. -/
theorem Way.of_oneOrMore {set : CharSet} {greedy : Bool} {u t : Place}
    (h : Way (oneOrMore set greedy) u t) :
    ∃ used, used ≠ [] ∧ (∀ c ∈ used, set.mem c = true) ∧ u.rest = used ++ t.rest ∧
      t.groups = u.groups := by
  obtain ⟨used, rest, hne, hrest, hused, rfl⟩ := way_oneOrMore_iff.mp h
  exact ⟨used, hne, hused, hrest, rfl⟩

/-- A way through any number of characters of a set leads behind them. -/
theorem Way.of_span {set : CharSet} {greedy : Bool} {u t : Place} (h : Way (span set greedy) u t) :
    ∃ used, (∀ c ∈ used, set.mem c = true) ∧ u.rest = used ++ t.rest ∧ t.groups = u.groups := by
  obtain ⟨used, rest, hrest, hused, rfl⟩ := h
  exact ⟨used, hused, hrest, rfl⟩

/-- A way through a group notes what its pattern takes. -/
theorem Way.of_group {i : Nat} {p : Pattern} {u t : Place} (h : Way (group i p) u t) :
    ∃ m, Way p u m ∧ t.rest = m.rest ∧ t.groups = (i, ⟨u.rest, m.rest⟩) :: m.groups := by
  obtain ⟨m, hway, rfl⟩ := h
  exact ⟨m, hway, rfl, rfl⟩

/-! ## Reading at a place -/

/-- Whether a pattern can be read at the start of a text, with something before it. -/
def Starts (p : Pattern) (text : List Char) : Prop :=
  ∃ before groups t, Way p ⟨before, text, groups⟩ t

/-- A pattern that cannot be read at the start of a text is not. -/
theorem run_eq_none_of_not_starts {p : Pattern} {text : List Char} (h : ¬ p.Starts text)
    (k : Place → Option α) (before : List Char) (groups : List (Nat × Extent)) :
    run p k ⟨before, text, groups⟩ = none := by
  cases hrun : run p k ⟨before, text, groups⟩ with
  | none => rfl
  | some a =>
    obtain ⟨t, hway, -⟩ := (run_realizes p).sound _ _ _ hrun
    exact absurd ⟨before, groups, t, hway⟩ h

/-- What is accepted behind a place is read there. -/
theorem starts_of_isSome_run {p : Pattern} {k : Place → Option α} {u : Place}
    (h : (run p k u).isSome) : p.Starts u.rest := by
  obtain ⟨a, ha⟩ := Option.isSome_iff_exists.mp h
  obtain ⟨t, hway, -⟩ := (run_realizes p).sound _ _ _ ha
  exact ⟨u.before, u.groups, t, hway⟩

/-- A way starts where its pattern can be read. -/
theorem Way.starts {p : Pattern} {s t : Place} (h : Way p s t) : p.Starts s.rest :=
  ⟨s.before, s.groups, t, h⟩

/-- A text starts with the text of a pattern that can be read there. -/
theorem starts_lead {p : Pattern} {s text : List Char} (h : (lead s p).Starts text) :
    ∃ rest, text = s ++ rest ∧ p.Starts rest := by
  obtain ⟨before, groups, t, hway⟩ := h
  obtain ⟨m, hway, hrest, -⟩ := hway.of_lead
  exact ⟨m.rest, hrest, hway.starts⟩

/-- A text starts with a text that can be read there. -/
theorem starts_literally {s text : List Char} (h : (literally s).Starts text) :
    ∃ rest, text = s ++ rest := by
  obtain ⟨before, groups, t, hway⟩ := h
  exact ⟨t.rest, hway.of_literally.1⟩

/-- A text starts with the first character of what can be read there. -/
theorem head?_of_starts_lead {p : Pattern} {c : Char} {s text : List Char}
    (h : (lead (c :: s) p).Starts text) : text.head? = some c := by
  obtain ⟨rest, rfl, -⟩ := starts_lead h
  rfl

/-- A text starts with a text that can be read there, and then the rest can be read. -/
theorem starts_literally_seq {q : Pattern} {s text : List Char}
    (h : (seq (literally s) q).Starts text) : ∃ rest, text = s ++ rest ∧ q.Starts rest := by
  obtain ⟨before, groups, t, m, hway, hmt⟩ := h
  exact ⟨m.rest, hway.of_literally.1, hmt.starts⟩

/-- A text starts with the first character of a text that can be read there. -/
theorem head?_of_starts_literally {c : Char} {s text : List Char}
    (h : (literally (c :: s)).Starts text) : text.head? = some c := by
  obtain ⟨rest, rfl⟩ := starts_literally h
  rfl

/-- A text starts with the characters that a group takes, and then the rest can be read. -/
theorem starts_oneOrMore {i : Nat} {set : CharSet} {greedy : Bool} {q : Pattern} {text : List Char}
    (h : (seq (group i (oneOrMore set greedy)) q).Starts text) :
    ∃ used rest, text = used ++ rest ∧ used ≠ [] ∧ (∀ c ∈ used, set.mem c = true) ∧
      q.Starts rest := by
  obtain ⟨before, groups, t, m, hgroup, hmt⟩ := h
  obtain ⟨m', hway, hrest, -⟩ := hgroup.of_group
  obtain ⟨used, hne, hused, htext, -⟩ := hway.of_oneOrMore
  exact ⟨used, m'.rest, htext, hne, hused, hrest ▸ hmt.starts⟩

/-! ## Runs -/

/-- A text and then a pattern are read one after the other. -/
theorem run_lead (s : List Char) (p : Pattern) (k : Place → Option α) (before rest : List Char)
    (groups : List (Nat × Extent)) :
    run (lead s p) k ⟨before, s ++ rest, groups⟩ = run p k ⟨s.reverse ++ before, rest, groups⟩ := by
  induction s generalizing before with
  | nil => rfl
  | cons c s ih =>
    have hc : (CharSet.single c).mem c = true := CharSet.mem_single.mpr rfl
    have htail := ih (c :: before)
    rw [List.cons_append, List.reverse_cons, List.append_assoc]
    exact (run_one_of_mem hc before (s ++ rest) groups).trans htail

/-- A text is read as such. -/
theorem run_literally (s : List Char) (k : Place → Option α) (before rest : List Char)
    (groups : List (Nat × Extent)) :
    run (literally s) k ⟨before, s ++ rest, groups⟩ = k ⟨s.reverse ++ before, rest, groups⟩ := by
  refine run_eq_of_unique ((way_literally_iff s).mpr ⟨rest, rfl, rfl⟩) fun t hway _ => ?_
  obtain ⟨rest', hrest, rfl⟩ := (way_literally_iff s).mp hway
  rw [List.append_cancel_left hrest]

/-- **Groups.** Where the pattern of a group takes a text, and the rest of the pattern can be read
behind no other text that it takes, the group holds that text. -/
theorem run_group_of_unique {i : Nat} {c : Char} {p q : Pattern} (hp : p.avoids c = true)
    {text rest : List Char} (htakes : p.Takes text)
    (hunique : ∀ used behind, text ++ rest = used ++ behind → c ∉ used → p.Takes used →
      q.Starts behind → used = text)
    (k : Place → Option α) (before : List Char) (groups : List (Nat × Extent)) :
    run (seq (group i p) q) k ⟨before, text ++ rest, groups⟩ =
      run q k ⟨text.reverse ++ before, rest, (i, ⟨text ++ rest, rest⟩) :: groups⟩ := by
  let behind : Place → Option α := fun t =>
    run q k { t with groups := (i, ⟨text ++ rest, t.rest⟩) :: t.groups }
  calc
    run (seq (group i p) q) k ⟨before, text ++ rest, groups⟩
      = run p behind ⟨before, text ++ rest, groups⟩ := rfl
    _ = behind ⟨text.reverse ++ before, rest, groups⟩ := by
      refine run_eq_of_unique (htakes before rest groups) fun t hway hk => ?_
      obtain ⟨used, rest', hrest, rfl, hused, htaken⟩ := hway.of_avoids hp
      obtain rfl := hunique used rest' hrest hused htaken (starts_of_isSome_run hk)
      rw [List.append_cancel_left hrest]

/-- A group holds what precedes some character, if its pattern takes that and avoids the character,
and the rest of the pattern starts with it. -/
theorem run_group_before {i : Nat} {c : Char} {p q : Pattern} (hp : p.avoids c = true)
    (hq : ∀ text, q.Starts text → text.head? = some c) {text : List Char} (htext : c ∉ text)
    (htakes : p.Takes text) (k : Place → Option α) (before rest : List Char)
    (groups : List (Nat × Extent)) :
    run (seq (group i p) q) k ⟨before, text ++ c :: rest, groups⟩ =
      run q k
        ⟨text.reverse ++ before, c :: rest, (i, ⟨text ++ c :: rest, c :: rest⟩) :: groups⟩ := by
  refine run_group_of_unique hp htakes ?_ k before groups
  intro used behind hcut hused _ hbehind
  obtain ⟨behind, rfl⟩ := List.head?_eq_some_iff.mp (hq behind hbehind)
  rcases append_cut_cases htext hcut with ⟨heq, -⟩ | ⟨more, rfl, -⟩
  · exact heq
  · exact absurd (by simp) hused

/-- One or more characters of a set are read to the last one, if that is accepted. -/
theorem run_oneOrMore {set : CharSet} {used rest : List Char} (hne : used ≠ [])
    (hused : ∀ c ∈ used, set.mem c = true) (hrest : ∀ c ∈ rest.head?, set.mem c = false)
    {k : Place → Option α} {before : List Char} {groups : List (Nat × Extent)} {a : α}
    (hk : k ⟨used.reverse ++ before, rest, groups⟩ = some a) :
    run (oneOrMore set true) k ⟨before, used ++ rest, groups⟩ = some a := by
  obtain ⟨c, used, rfl⟩ := List.exists_cons_of_ne_nil hne
  obtain ⟨hc, hused⟩ := List.forall_mem_cons.mp hused
  rw [oneOrMore, List.cons_append, run, run_one_of_mem hc, run]
  refine spanGreedy_eq_some hused hrest ?_
  simpa using hk

/-- A group for one or more characters of a set holds all of them up to the first other one. -/
theorem exists_of_run_group {i : Nat} {set : CharSet} {s t : Place}
    (h : run (group i (oneOrMore set true)) some s = some t) :
    ∃ c rest e, s.rest = c :: rest ∧ set.mem c = true ∧ t.groups = (i, e) :: s.groups ∧
      e.text = (c :: rest).takeWhile set.mem := by
  obtain ⟨before, text, groups⟩ := s
  obtain ⟨_, hway, -⟩ := (run_realizes _).sound _ _ _ h
  obtain ⟨_, hused, -⟩ := hway.of_group
  obtain ⟨used, hne, hall, htext, -⟩ := hused.of_oneOrMore
  obtain ⟨c, used, rfl⟩ := List.exists_cons_of_ne_nil hne
  have hc : set.mem c = true := hall c List.mem_cons_self
  obtain ⟨rest, rfl⟩ : ∃ rest, text = c :: rest := ⟨_, htext⟩
  let longest := (c :: rest).takeWhile set.mem
  let behind := (c :: rest).dropWhile set.mem
  have hjoin : longest ++ behind = c :: rest := List.takeWhile_append_dropWhile
  have hstop : ∀ d ∈ behind.head?, set.mem d = false := by
    intro d hd
    have hother := List.head?_dropWhile_not set.mem (c :: rest)
    rwa [Option.mem_def.mp hd] at hother
  have hrun : run (oneOrMore set true)
      (fun t => some { t with groups := (i, ⟨longest ++ behind, t.rest⟩) :: t.groups })
        ⟨before, longest ++ behind, groups⟩ = some _ :=
    run_oneOrMore (by simp [hc]) (fun d hd => List.mem_takeWhile_imp hd) hstop rfl
  have hextent := text_extent_append longest behind
  rw [hjoin] at hrun hextent
  obtain rfl := Option.some.inj (h.symm.trans hrun)
  exact ⟨c, rest, ⟨c :: rest, behind⟩, rfl, hc, rfl, hextent⟩

/-- A greedy span takes as many characters of its set as it can, so that what lies behind is
accepted and is not behind more of them. -/
theorem spanGreedy_eq_last {set : CharSet} {k : List Char → List Char → Option α} {a : α}
    {used before rest : List Char} (hused : ∀ c ∈ used, set.mem c = true)
    (hk : k (used.reverse ++ before) rest = some a)
    (hlater : ∀ more behind, more ++ behind = rest → more ≠ [] →
      k (more.reverse ++ (used.reverse ++ before)) behind = none) :
    spanGreedy set k before (used ++ rest) = some a := by
  induction used generalizing before with
  | nil =>
    cases hspan : spanGreedy set k before rest with
    | none =>
      -- an accepted place is found, and here is one
      have hsome := @spanGreedy_complete α set k [] rest (by simp) before
        (Option.isSome_iff_exists.mpr ⟨a, hk⟩)
      rw [List.nil_append, hspan] at hsome
      cases hsome
    | some b =>
      obtain ⟨more, behind, hrest, -, hb⟩ := spanGreedy_sound hspan
      rw [List.nil_append, hspan]
      cases more with
      | nil =>
        obtain rfl : rest = behind := hrest
        exact hb.symm.trans hk
      | cons c more =>
        have hnone := hlater (c :: more) behind hrest.symm (by simp)
        rw [List.reverse_nil, List.nil_append, hb] at hnone
        cases hnone
  | cons c used ih =>
    obtain ⟨hc, hused⟩ := List.forall_mem_cons.mp hused
    have hmore : spanGreedy set k (c :: before) (used ++ rest) = some a := by
      refine ih hused (by simpa using hk) fun more behind hrest hne => ?_
      have hnone := hlater more behind hrest hne
      simpa using hnone
    rw [List.cons_append, spanGreedy, if_pos hc, hmore]

/-! ## Searches -/

/-- Places where the pattern cannot be read are passed over. -/
theorem searchFrom_append {p : Pattern} {skipped before rest : List Char}
    (h : ∀ a b, a ++ b = skipped → b ≠ [] →
      run p some ⟨a.reverse ++ before, b ++ rest, []⟩ = none) :
    searchFrom p before (skipped ++ rest) = searchFrom p (skipped.reverse ++ before) rest := by
  induction skipped generalizing before with
  | nil => rfl
  | cons c skipped ih =>
    have hhere := h [] (c :: skipped) rfl (by simp)
    rw [List.cons_append, searchFrom]
    rw [List.reverse_nil, List.nil_append, List.cons_append] at hhere
    rw [hhere, ih]
    · simp
    · intro a b hab hb
      have hlater := h (c :: a) b (by rw [List.cons_append, hab]) hb
      simpa using hlater

/-- A search for a text passes over what does not hold its first character. -/
theorem searchFrom_lead {p : Pattern} {c : Char} {s skipped : List Char} (h : c ∉ skipped)
    (before rest : List Char) :
    searchFrom (lead (c :: s) p) before (skipped ++ rest) =
      searchFrom (lead (c :: s) p) (skipped.reverse ++ before) rest := by
  refine searchFrom_append fun a b hab hb => run_eq_none_of_not_starts (fun hstarts => ?_) _ _ _
  obtain ⟨d, b, rfl⟩ := List.exists_cons_of_ne_nil hb
  obtain ⟨behind, hbehind, -⟩ := starts_lead hstarts
  obtain ⟨rfl, -⟩ := List.cons.inj hbehind
  exact h (hab ▸ List.mem_append_right a List.mem_cons_self)

/-- A search finds something if the pattern can be read somewhere. -/
theorem isSome_searchFrom {p : Pattern} {skipped before rest : List Char}
    (h : (run p some ⟨skipped.reverse ++ before, rest, []⟩).isSome) :
    (searchFrom p before (skipped ++ rest)).isSome := by
  induction skipped generalizing before with
  | nil =>
    obtain ⟨t, hrun⟩ := Option.isSome_iff_exists.mp h
    have hfound : searchFrom p before rest = some t := searchFrom_of_run hrun
    rw [List.nil_append, hfound]
    rfl
  | cons c skipped ih =>
    rw [List.cons_append, searchFrom]
    split
    · rfl
    · exact ih (by simpa using h)

/-- **Searches.** A search finds the first place where the pattern can be read. -/
theorem exists_run_of_searchFrom {p : Pattern} {before text : List Char} {found : Place}
    (h : searchFrom p before text = some found) :
    ∃ skipped rest, skipped ++ rest = text ∧
      run p some ⟨skipped.reverse ++ before, rest, []⟩ = some found ∧
      ∀ a b, a ++ b = text → a.length < skipped.length →
        run p some ⟨a.reverse ++ before, b, []⟩ = none := by
  induction text generalizing before with
  | nil => exact ⟨[], [], rfl, h, by simp⟩
  | cons c text ih =>
    unfold searchFrom at h
    split at h
    · rename_i hrun
      exact ⟨[], c :: text, rfl, hrun.trans h, by simp⟩
    · rename_i hhere
      obtain ⟨skipped, rest, rfl, hrun, hfirst⟩ := ih h
      refine ⟨c :: skipped, rest, rfl, by simpa using hrun, fun a b hab hlength => ?_⟩
      cases a with
      | nil =>
        obtain rfl : b = c :: (skipped ++ rest) := hab
        exact hhere
      | cons d a =>
        obtain ⟨rfl, htail⟩ := List.cons.inj hab
        have hnone := hfirst a b htail (by simpa using hlength)
        simpa using hnone

end Pattern

end TraceScan
