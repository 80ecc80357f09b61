import Mathlib.Algebra.GroupWithZero.Nat
import Mathlib.Data.Finset.Card
import TraceScan.Proofs.Engine.Grounding
import TraceScan.Proofs.Engine.History
import TraceScan.Proofs.Matching.Sequence
import TraceScan.Proofs.PositionMap
import TraceScan.Report.Basic

/-!
# Statistics of locations

Names are counted one after the other, in a list that stays in the order of names. One more of a
name adds one to its count and to the sum of all counts, and leaves the other counts as they are. So
counting leads to the tally of the names, which tells of each name how often it occurs
(`tallies_tally`). Names have one tally (`Tallies.unique`), and their order does not matter to it
(`Tallies.of_perm`).

The statistics of locations are determined in the same way (`Stats.Summarizes`), and
`report_statistics_are_consistent` is about those that a scan reports.
-/

namespace TraceScan

/-! ## Counts -/

/-- The count of a name, which is zero if it is not counted. -/
def countOf (counts : List (String × Nat)) (name : String) : Nat :=
  (counts.lookup name).getD 0

section Counts

variable {counts : List (String × Nat)} {name : String}

/-- One more of a name makes no other name. -/
theorem fst_of_mem_tallyOne {x : String × Nat} (hx : x ∈ tallyOne name counts) :
    x.1 = name ∨ ∃ y ∈ counts, y.1 = x.1 := by
  induction counts with
  | nil =>
    obtain rfl := List.mem_singleton.mp hx
    exact Or.inl rfl
  | cons y counts ih =>
    rw [tallyOne] at hx
    split_ifs at hx with heq hlt
    · rcases List.mem_cons.mp hx with rfl | hx
      · exact Or.inl heq.symm
      · exact Or.inr ⟨x, List.mem_cons_of_mem _ hx, rfl⟩
    · rcases List.mem_cons.mp hx with rfl | hx
      · exact Or.inl rfl
      · exact Or.inr ⟨x, hx, rfl⟩
    · rcases List.mem_cons.mp hx with rfl | hx
      · exact Or.inr ⟨_, List.mem_cons_self, rfl⟩
      · rcases ih hx with h | ⟨z, hz, h⟩
        · exact Or.inl h
        · exact Or.inr ⟨z, List.mem_cons_of_mem _ hz, h⟩

/-- Counts stay in the order of names. -/
theorem pairwise_tallyOne (h : counts.Pairwise fun a b => a.1 < b.1) (name : String) :
    (tallyOne name counts).Pairwise fun a b => a.1 < b.1 := by
  induction counts with
  | nil => exact List.pairwise_singleton _ _
  | cons y counts ih =>
    obtain ⟨hhead, htail⟩ := List.pairwise_cons.mp h
    rw [tallyOne]
    split_ifs with heq hlt
    · exact List.pairwise_cons.mpr ⟨hhead, htail⟩
    · refine List.pairwise_cons.mpr ⟨?_, h⟩
      intro z hz
      rcases List.mem_cons.mp hz with rfl | hz
      · exact hlt
      · exact String.lt_trans hlt (hhead z hz)
    · refine List.pairwise_cons.mpr ⟨?_, ih htail⟩
      intro z hz
      rcases fst_of_mem_tallyOne hz with hname | ⟨x, hx, hname⟩
      · exact hname ▸ Std.lt_of_le_of_ne hlt (Ne.symm heq)
      · exact hname ▸ hhead x hx

/-- One more of a name leaves no count at zero. -/
theorem pos_of_mem_tallyOne (h : ∀ x ∈ counts, 0 < x.2) {x : String × Nat}
    (hx : x ∈ tallyOne name counts) : 0 < x.2 := by
  induction counts with
  | nil =>
    obtain rfl := List.mem_singleton.mp hx
    exact Nat.one_pos
  | cons y counts ih =>
    obtain ⟨hhead, htail⟩ := List.forall_mem_cons.mp h
    rw [tallyOne] at hx
    split_ifs at hx with heq hlt
    · rcases List.mem_cons.mp hx with rfl | hx
      · exact Nat.succ_pos _
      · exact htail x hx
    · rcases List.mem_cons.mp hx with rfl | hx
      · exact Nat.one_pos
      · exact h x hx
    · rcases List.mem_cons.mp hx with rfl | hx
      · exact hhead
      · exact ih htail hx

/-- The count of the first name. -/
theorem countOf_cons (y : String × Nat) (counts : List (String × Nat)) (name : String) :
    countOf (y :: counts) name = if name = y.1 then y.2 else countOf counts name := by
  by_cases h : name = y.1
  · rw [if_pos h, countOf, h, List.lookup_cons_self, Option.getD_some]
  · have hbeq : (name == y.1) = false := by simpa using h
    rw [if_neg h, countOf, countOf, List.lookup_cons, hbeq]

/-- A name that comes before all that are counted is not counted. -/
theorem countOf_eq_zero (h : ∀ x ∈ counts, name < x.1) : countOf counts name = 0 := by
  induction counts with
  | nil => rfl
  | cons y counts ih =>
    obtain ⟨hhead, htail⟩ := List.forall_mem_cons.mp h
    have hne : name ≠ y.1 := by
      rintro rfl
      exact String.lt_irrefl _ hhead
    rw [countOf_cons, if_neg hne, ih htail]

/-- One more of a name adds one to its count. -/
theorem countOf_tallyOne_self (h : counts.Pairwise fun a b => a.1 < b.1) (name : String) :
    countOf (tallyOne name counts) name = countOf counts name + 1 := by
  induction counts with
  | nil =>
    rw [tallyOne, countOf_cons, if_pos rfl]
    rfl
  | cons y counts ih =>
    obtain ⟨hhead, htail⟩ := List.pairwise_cons.mp h
    rw [tallyOne]
    split_ifs with heq hlt
    · rw [countOf_cons, if_pos heq, countOf_cons, if_pos heq]
    · -- the name comes before all others, and so it had no count
      have hzero : countOf (y :: counts) name = 0 := by
        refine countOf_eq_zero (List.forall_mem_cons.mpr ⟨hlt, ?_⟩)
        exact fun x hx => String.lt_trans hlt (hhead x hx)
      rw [countOf_cons, if_pos rfl, hzero]
    · rw [countOf_cons, if_neg heq, countOf_cons, if_neg heq, ih htail]

/-- One more of a name leaves the other counts as they are. -/
theorem countOf_tallyOne_of_ne {other : String} (h : other ≠ name)
    (counts : List (String × Nat)) :
    countOf (tallyOne name counts) other = countOf counts other := by
  induction counts with
  | nil =>
    rw [tallyOne, countOf_cons, if_neg h]
  | cons y counts ih =>
    rw [tallyOne]
    split_ifs with heq hlt
    · have hother : other ≠ y.1 := heq ▸ h
      rw [countOf_cons, if_neg hother, countOf_cons, if_neg hother]
    · rw [countOf_cons, if_neg h]
    · rw [countOf_cons, countOf_cons, ih]

/-- One more of a name is one more of all. -/
theorem sum_tallyOne (name : String) (counts : List (String × Nat)) :
    ((tallyOne name counts).map Prod.snd).sum = (counts.map Prod.snd).sum + 1 := by
  induction counts with
  | nil => rfl
  | cons y counts ih =>
    rw [tallyOne]
    split_ifs with heq hlt
    · simp only [List.map_cons, List.sum_cons]
      omega
    · simp only [List.map_cons, List.sum_cons]
      omega
    · simp only [List.map_cons, List.sum_cons, ih]
      omega

end Counts

/-! ## Tallies -/

/-- Whether counts are those of some names: in the order of names, without zeros, and with each name
as often as it occurs. -/
structure Tallies (names : List String) (counts : List (String × Nat)) : Prop where
  rising : counts.Pairwise fun a b => a.1 < b.1
  positive : ∀ x ∈ counts, 0 < x.2
  countOf_eq : ∀ name, countOf counts name = names.count name

namespace Tallies

variable {names others : List String} {counts : List (String × Nat)}

/-- The entries of a tally are the names that occur, each with how often it does. -/
theorem mem_iff (h : Tallies names counts) (x : String × Nat) :
    x ∈ counts ↔ 0 < x.2 ∧ names.count x.1 = x.2 := by
  have hlookup : x ∈ counts ↔ counts.lookup x.1 = some x.2 :=
    PositionMap.mem_iff_lookup_eq_some String.lt_irrefl h.rising
  constructor
  · intro hx
    refine ⟨h.positive x hx, ?_⟩
    rw [← h.countOf_eq, countOf, hlookup.mp hx, Option.getD_some]
  · rintro ⟨hpos, hcount⟩
    rw [← h.countOf_eq, countOf] at hcount
    rw [hlookup]
    cases hfound : counts.lookup x.1 with
    | none =>
      rw [hfound, Option.getD_none] at hcount
      omega
    | some n => rw [← hcount, hfound, Option.getD_some]

/-- **Uniqueness.** Names have one tally. -/
theorem unique {counts' : List (String × Nat)} (h : Tallies names counts)
    (h' : Tallies names counts') : counts = counts' := by
  refine PositionMap.eq_of_mem_iff (fun _ _ => String.lt_asymm) h.rising h'.rising ?_
  intro x
  rw [h.mem_iff, h'.mem_iff]

/-- The order of the names does not matter to a tally. -/
theorem of_perm (h : Tallies names counts) (hperm : names.Perm others) :
    Tallies others counts := by
  refine ⟨h.rising, h.positive, ?_⟩
  intro name
  rw [h.countOf_eq, hperm.count_eq]

/-- No name is counted more often than there are names. -/
theorem le_length (h : Tallies names counts) {x : String × Nat} (hx : x ∈ counts) :
    x.2 ≤ names.length := by
  rw [← ((h.mem_iff x).mp hx).2]
  exact List.count_le_length

/-- A tally goes on with one more of a name. -/
theorem concat (h : Tallies names counts) (name : String) :
    Tallies (names ++ [name]) (tallyOne name counts) := by
  refine ⟨pairwise_tallyOne h.rising name, fun x => pos_of_mem_tallyOne h.positive, ?_⟩
  intro other
  rw [List.count_append]
  by_cases hname : other = name
  · rw [hname, countOf_tallyOne_self h.rising, h.countOf_eq, List.count_singleton_self]
  · have hlast : [name].count other = 0 := List.count_eq_zero.mpr (by simpa using hname)
    rw [countOf_tallyOne_of_ne hname, h.countOf_eq, hlast, Nat.add_zero]

end Tallies

/-- Counting one more name is one more of that name. -/
theorem tally_append_singleton (names : List String) (name : String) :
    tally (names ++ [name]) = tallyOne name (tally names) := by
  rw [tally, tally, List.foldl_append]
  rfl

/-- **Counting.** Counting names leads to their tally. -/
theorem tallies_tally (names : List String) : Tallies names (tally names) := by
  -- from the last name back, which is the one that was counted last
  induction names using List.reverseRecOn with
  | nil => exact ⟨List.Pairwise.nil, fun _ hx => absurd hx List.not_mem_nil, fun _ => rfl⟩
  | append_singleton names name ih =>
    rw [tally_append_singleton]
    exact ih.concat name

/-- All counts together are as many as the names. -/
theorem sum_tally (names : List String) : ((tally names).map Prod.snd).sum = names.length := by
  induction names using List.reverseRecOn with
  | nil => rfl
  | append_singleton names name ih =>
    rw [tally_append_singleton, sum_tallyOne, ih, List.length_append, List.length_singleton]

/-! ## Different elements -/

/-- Each element is kept once. -/
theorem nodup_eraseDups {α : Type} [BEq α] [LawfulBEq α] (l : List α) : l.eraseDups.Nodup := by
  -- on the length, since what comes behind an element is filtered first
  induction h : l.length using Nat.strongRecOn generalizing l with
  | ind n ih =>
    cases l with
    | nil => exact List.nodup_nil
    | cons a l =>
      have hfilter : (l.filter fun b => !b == a).length ≤ l.length := List.length_filter_le _ _
      have hrest := ih _ (by rw [← h, List.length_cons]; omega) (l.filter fun b => !b == a) rfl
      rw [List.eraseDups_cons, List.nodup_cons]
      refine ⟨?_, hrest⟩
      rw [List.mem_eraseDups, List.mem_filter]
      simp

/-- As many elements are kept as are different. -/
theorem length_eraseDups {α : Type} [DecidableEq α] (l : List α) :
    l.eraseDups.length = l.toFinset.card := by
  rw [← List.toFinset_card_of_nodup (nodup_eraseDups l)]
  congr 1
  ext a
  rw [List.mem_toFinset, List.mem_toFinset, List.mem_eraseDups]

/-! ## Statistics -/

/-- Whether statistics are those of some locations, found in a number of lines: they tell how many
locations there are, how many different paths they have, and of each grammar how many of them it
found, which are all of them together. -/
structure Stats.Summarizes (s : Stats) (totalLines : Nat) (found : List Location) : Prop where
  totalLines_eq : s.totalLines = totalLines
  totalMatches_eq : s.totalMatches = found.length
  distinctFiles_eq : s.distinctFiles = (found.map Location.path).toFinset.card
  tallies : Tallies (found.map Location.grammar) s.byGrammar
  sum_eq : (s.byGrammar.map Prod.snd).sum = s.totalMatches

namespace Stats

variable {totalLines : Nat} {found others : List Location} {s s' : Stats}

/-- The statistics that are made of locations are theirs. -/
theorem summarizes_ofLocations (totalLines : Nat) (found : List Location) :
    (ofLocations totalLines found).Summarizes totalLines found := by
  refine ⟨rfl, rfl, length_eraseDups _, tallies_tally _, ?_⟩
  show ((tally (found.map Location.grammar)).map Prod.snd).sum = found.length
  rw [sum_tally, List.length_map]

/-- **Uniqueness.** Locations have one summary. -/
theorem Summarizes.unique (h : s.Summarizes totalLines found)
    (h' : s'.Summarizes totalLines found) : s = s' := by
  have hlines : s.totalLines = s'.totalLines := h.totalLines_eq.trans h'.totalLines_eq.symm
  have hmatches : s.totalMatches = s'.totalMatches :=
    h.totalMatches_eq.trans h'.totalMatches_eq.symm
  have hfiles : s.distinctFiles = s'.distinctFiles :=
    h.distinctFiles_eq.trans h'.distinctFiles_eq.symm
  have hcounts : s.byGrammar = s'.byGrammar := h.tallies.unique h'.tallies
  cases s
  cases s'
  rw [mk.injEq]
  exact ⟨hlines, hmatches, hfiles, hcounts⟩

/-- The order of the locations does not matter to a summary. -/
theorem Summarizes.of_perm (h : s.Summarizes totalLines found) (hperm : found.Perm others) :
    s.Summarizes totalLines others := by
  refine ⟨h.totalLines_eq, h.totalMatches_eq.trans hperm.length_eq, ?_,
    h.tallies.of_perm (hperm.map Location.grammar), h.sum_eq⟩
  rw [h.distinctFiles_eq, List.toFinset_eq_of_perm _ _ (hperm.map Location.path)]

/-- **Order.** Locations in another order have the same statistics. -/
theorem ofLocations_perm (h : found.Perm others) :
    ofLocations totalLines found = ofLocations totalLines others :=
  ((summarizes_ofLocations totalLines found).of_perm h).unique
    (summarizes_ofLocations totalLines others)

/-- A grammar that is counted has found a location. -/
theorem Summarizes.exists_grammar (h : s.Summarizes totalLines found) {x : String × Nat}
    (hx : x ∈ s.byGrammar) : ∃ l ∈ found, l.grammar = x.1 := by
  obtain ⟨hpos, hcount⟩ := (h.tallies.mem_iff x).mp hx
  have hmem : x.1 ∈ found.map Location.grammar := by
    rw [← List.count_pos_iff]
    omega
  exact List.mem_map.mp hmem

end Stats

/-! ## Scans -/

namespace Engine

section Scans

variable (e : Engine) (lines : List String) (cwd : Option String) (stream : Option StreamId)

/-- A scan finds at most one location in each line. -/
theorem length_scan_le : (e.scan lines cwd stream).2.length ≤ lines.length := by
  cases henabled : e.config.enabled with
  | false =>
    rw [e.scan_of_disabled cwd henabled]
    exact Nat.zero_le _
  | true =>
    rw [e.scan_snd cwd henabled]
    have hlength := e.matcher.length_scanFrom_le (lines.map strip) 0 cwd 1
    rwa [List.length_map, Nat.sub_zero] at hlength

/-- A scan finds locations by registered grammars. -/
theorem grammar_mem_names_of_mem_scan {l : Location} (hl : l ∈ (e.scan lines cwd stream).2) :
    l.grammar ∈ e.registry.names := by
  cases henabled : e.config.enabled with
  | false =>
    rw [e.scan_of_disabled cwd henabled] at hl
    exact absurd hl List.not_mem_nil
  | true =>
    rw [e.scan_snd cwd henabled] at hl
    obtain ⟨i, hi⟩ := e.matcher.mem_scanFrom.mp hl
    obtain ⟨line, g, capture, -, -, hg, -, rfl⟩ := e.matcher.exists_of_matchInSequence hi
    exact List.mem_map_of_mem (Registry.mem_grammars_of_mem_ordered hg)

end Scans

/-- **Statistics.** Whatever the state of an engine is, its report on a buffer has the statistics of
the locations that the scan finds, which are no more than the lines, and counts no grammar that is
not registered. The statistics of locations do not depend on their order. -/
theorem report_statistics_are_consistent (e : Engine) (lines : List String) (cwd : Option String)
    (stream : Option StreamId) (durationMs : Nat) (timestamp : String) :
    let r := (e.scanReport lines cwd stream durationMs timestamp).2
    r.found = (e.scan lines cwd stream).2 ∧
      r.stats.Summarizes lines.length r.found ∧
      r.stats.totalMatches ≤ r.stats.totalLines ∧
      (∀ x ∈ r.stats.byGrammar, x.1 ∈ e.registry.names) ∧
      ∀ (totalLines : Nat) (found others : List Location), found.Perm others →
        Stats.ofLocations totalLines found = Stats.ofLocations totalLines others := by
  intro r
  have hsummary : r.stats.Summarizes lines.length r.found :=
    Stats.summarizes_ofLocations lines.length r.found
  refine ⟨rfl, hsummary, e.length_scan_le lines cwd stream, ?_, ?_⟩
  · intro x hx
    obtain ⟨l, hl, hname⟩ := hsummary.exists_grammar hx
    rw [← hname]
    exact e.grammar_mem_names_of_mem_scan lines cwd stream hl
  · intro totalLines found others hperm
    exact Stats.ofLocations_perm hperm

/-- Three notes in five lines are counted by their grammars and by their files. In the reverse order
they have the same statistics. -/
theorem notes_are_counted :
    let lines := ["two", "todo:8", "todo:9", "", "done:8"]
    let r := (notes.scanReport lines none none 0 "now").2
    r.stats = ⟨5, 3, 2, [("first", 2), ("second", 1)]⟩ ∧
      (∀ x ∈ r.stats.byGrammar, x.1 ∈ notes.registry.names) ∧
      r.found.Perm r.found.reverse ∧
      Stats.ofLocations 5 r.found = Stats.ofLocations 5 r.found.reverse := by
  intro lines r
  obtain ⟨-, -, -, hnames, horder⟩ :=
    report_statistics_are_consistent notes lines none none 0 "now"
  have hreverse : r.found.Perm r.found.reverse := (List.reverse_perm r.found).symm
  exact ⟨by decide +kernel, hnames, hreverse, horder 5 _ _ hreverse⟩

end Engine

end TraceScan
