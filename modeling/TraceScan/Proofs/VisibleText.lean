import Mathlib.Data.List.DropRight
import Mathlib.Logic.Relation
import TraceScan.VisibleText

/-!
# Visible text as a normal form

The control sequences of a text may be deleted one at a time, and a deletion may join the halves of
another sequence. The main statements are:

* `Deletes.diamond`: two sequences never overlap, so that each of two deletions leaves the other
  one possible;
* `normalForm_settle`: whatever the order of the deletions, they end in the same text, which
  `settle` computes;
* `strip_computes_normal_form`: `strip` gives that text without the returns at its end.
-/

namespace TraceScan

open Relation (ReflTransGen)

/-! ## Characters of a control sequence -/

/-- The parameter characters by their codes. -/
theorem isParameter_iff {c : Char} : isParameter c = true ↔ 0x30 ≤ c.toNat ∧ c.toNat ≤ 0x3F := by
  simp [isParameter, Char.le_def, UInt32.le_iff_toNat_le]

/-- The intermediate characters by their codes. -/
theorem isIntermediate_iff {c : Char} :
    isIntermediate c = true ↔ 0x20 ≤ c.toNat ∧ c.toNat ≤ 0x2F := by
  simp [isIntermediate, Char.le_def, UInt32.le_iff_toNat_le]

/-- The final characters by their codes. -/
theorem isFinal_iff {c : Char} : isFinal c = true ↔ 0x40 ≤ c.toNat ∧ c.toNat ≤ 0x7E := by
  simp [isFinal, Char.le_def, UInt32.le_iff_toNat_le]

/-- No intermediate character is a parameter. -/
theorem not_isParameter_of_isIntermediate {c : Char} (h : isIntermediate c = true) :
    ¬ isParameter c = true := by
  rw [isIntermediate_iff] at h
  rw [isParameter_iff]
  omega

/-- No final character is a parameter or an intermediate character. -/
theorem isFinal_apart {c : Char} (h : isFinal c = true) :
    ¬ isParameter c = true ∧ ¬ isIntermediate c = true := by
  rw [isFinal_iff] at h
  rw [isParameter_iff, isIntermediate_iff]
  omega

/-! ## Control sequences -/

/-- The texts that are one control sequence. -/
def IsSequence (s : List Char) : Prop :=
  ∃ parameters intermediates final,
    s = escapeChar :: '[' :: (parameters ++ (intermediates ++ [final])) ∧
      (∀ c ∈ parameters, isParameter c = true) ∧
      (∀ c ∈ intermediates, isIntermediate c = true) ∧ isFinal final = true

/-- What `afterSequence?` looks for: `ESC [`, and a final character behind the parameters and the
intermediate characters. -/
theorem afterSequence?_eq_some_iff_drop {s behind : List Char} :
    afterSequence? s = some behind ↔ ∃ t final, s = escapeChar :: '[' :: t ∧
      (t.dropWhile isParameter).dropWhile isIntermediate = final :: behind ∧
      isFinal final = true := by
  constructor
  · intro h
    unfold afterSequence? at h
    split at h
    case h_1 a b t =>
      split at h
      case isTrue hab =>
        split at h
        case h_1 c rest hrest =>
          split at h
          case isTrue hc =>
            cases h
            exact ⟨t, c, by rw [hab.1, hab.2], hrest, hc⟩
          case isFalse => cases h
        case h_2 => cases h
      case isFalse => cases h
    case h_2 => cases h
  · rintro ⟨t, final, rfl, hrest, hfinal⟩
    simp only [afterSequence?, hrest]
    rw [if_pos ⟨trivial, trivial⟩, if_pos hfinal]

/-- A text starts with a control sequence when `afterSequence?` cuts it off. -/
theorem afterSequence?_eq_some_iff {s behind : List Char} :
    afterSequence? s = some behind ↔ ∃ sequence, IsSequence sequence ∧ s = sequence ++ behind := by
  rw [afterSequence?_eq_some_iff_drop]
  constructor
  · rintro ⟨t, final, rfl, hrest, hfinal⟩
    refine ⟨_, ⟨t.takeWhile isParameter, (t.dropWhile isParameter).takeWhile isIntermediate,
      final, rfl, fun c => List.mem_takeWhile_imp, fun c => List.mem_takeWhile_imp, hfinal⟩, ?_⟩
    have ht : t.takeWhile isParameter ++ ((t.dropWhile isParameter).takeWhile isIntermediate
        ++ final :: behind) = t := by
      rw [← hrest, List.takeWhile_append_dropWhile, List.takeWhile_append_dropWhile]
    simp [ht]
  · rintro ⟨_, ⟨parameters, intermediates, final, rfl, hparameters, hintermediates, hfinal⟩, rfl⟩
    refine ⟨parameters ++ (intermediates ++ final :: behind), final, by simp, ?_, hfinal⟩
    -- the parameters end where the other classes begin
    have hstop : (intermediates ++ final :: behind).dropWhile isParameter =
        intermediates ++ final :: behind := by
      cases intermediates with
      | nil => exact List.dropWhile_cons_of_neg (isFinal_apart hfinal).1
      | cons c cs =>
        exact List.dropWhile_cons_of_neg
          (not_isParameter_of_isIntermediate (hintermediates c List.mem_cons_self))
    rw [List.dropWhile_append_of_pos hparameters, hstop,
      List.dropWhile_append_of_pos hintermediates]
    exact List.dropWhile_cons_of_neg (isFinal_apart hfinal).2

/-- A control sequence is an escape character and a rest without one, and without returns. -/
theorem IsSequence.eq_cons {s : List Char} (h : IsSequence s) :
    ∃ body, s = escapeChar :: body ∧ escapeChar ∉ body ∧ '\r' ∉ body := by
  obtain ⟨parameters, intermediates, final, rfl, hparameters, hintermediates, hfinal⟩ := h
  refine ⟨_, rfl, ?_⟩
  have hclass : ∀ c ∈ '[' :: (parameters ++ (intermediates ++ [final])), 0x20 ≤ c.toNat := by
    intro c hc
    rcases List.mem_cons.mp hc with rfl | hc
    · decide
    rcases List.mem_append.mp hc with hc | hc
    · have := (isParameter_iff.mp (hparameters c hc)).1
      omega
    rcases List.mem_append.mp hc with hc | hc
    · exact (isIntermediate_iff.mp (hintermediates c hc)).1
    · rw [List.mem_singleton.mp hc]
      have := (isFinal_iff.mp hfinal).1
      omega
  exact ⟨fun h => absurd (hclass _ h) (by decide), fun h => absurd (hclass _ h) (by decide)⟩

/-- There is no return in a control sequence. -/
theorem IsSequence.return_not_mem {s : List Char} (h : IsSequence s) : '\r' ∉ s := by
  obtain ⟨body, rfl, -, hbody⟩ := h.eq_cons
  exact List.not_mem_cons_of_ne_of_not_mem (by decide) hbody

/-- A text starts with one control sequence at most. -/
theorem IsSequence.append_inj {s t u v : List Char} (hs : IsSequence s) (ht : IsSequence t)
    (h : s ++ u = t ++ v) : u = v := by
  have hu : afterSequence? (s ++ u) = some u := afterSequence?_eq_some_iff.mpr ⟨s, hs, rfl⟩
  have hv : afterSequence? (t ++ v) = some v := afterSequence?_eq_some_iff.mpr ⟨t, ht, rfl⟩
  rw [h, hv, Option.some.injEq] at hu
  exact hu.symm

/-- **No overlap.** Of two control sequences in a text, the one that starts no later is the other
one, or it ends before the other one starts. -/
theorem IsSequence.apart {s t u v gap : List Char} (hs : IsSequence s) (ht : IsSequence t)
    (h : s ++ u = gap ++ (t ++ v)) :
    gap = [] ∧ u = v ∨ ∃ mid, gap = s ++ mid ∧ u = mid ++ (t ++ v) := by
  rcases List.append_eq_append_iff.mp h with ⟨mid, hgap, hu⟩ | ⟨rest, hsgap, hrest⟩
  · exact Or.inr ⟨mid, hgap, hu⟩
  · cases gap with
    | nil =>
      left
      exact ⟨rfl, hs.append_inj ht h⟩
    | cons c gap =>
      right
      -- the second sequence cannot start inside the first one, where no escape character is
      cases rest with
      | nil => exact ⟨[], by rw [hsgap, List.append_nil, List.append_nil], hrest.symm⟩
      | cons d rest =>
        obtain ⟨body, rfl, hbody, -⟩ := hs.eq_cons
        obtain ⟨body', rfl, -, -⟩ := ht.eq_cons
        have hd : escapeChar = d := (List.cons.inj hrest).1
        have hmem : escapeChar ∈ body := by
          rw [(List.cons.inj hsgap).2, hd]
          simp
        exact absurd hmem hbody

/-! ## Deletions -/

/-- A text becomes another one by the deletion of one control sequence. -/
def Deletes (s t : List Char) : Prop :=
  ∃ before sequence behind, IsSequence sequence ∧ s = before ++ (sequence ++ behind) ∧
    t = before ++ behind

/-- A text without control sequences. -/
def SequenceFree (s : List Char) : Prop :=
  ∀ sequence, IsSequence sequence → ¬ sequence <:+: s

/-- A deletion shortens the text. -/
theorem Deletes.length_lt {s t : List Char} (h : Deletes s t) : t.length < s.length := by
  obtain ⟨before, sequence, behind, hsequence, rfl, rfl⟩ := h
  obtain ⟨body, rfl, -, -⟩ := hsequence.eq_cons
  simp only [List.length_append, List.length_cons]
  omega

/-- **Termination.** There is no endless chain of deletions. -/
theorem wellFounded_deletes : WellFounded fun t s => Deletes s t :=
  Subrelation.wf Deletes.length_lt (measure List.length).wf

/-- What stands around a text does not hinder a deletion in it. -/
theorem Deletes.append {s t : List Char} (h : Deletes s t) (left right : List Char) :
    Deletes (left ++ s ++ right) (left ++ t ++ right) := by
  obtain ⟨before, sequence, behind, hsequence, rfl, rfl⟩ := h
  exact ⟨left ++ before, sequence, behind ++ right, hsequence, by simp, by simp⟩

/-- A text allows a deletion unless it is free of sequences. -/
theorem sequenceFree_iff {s : List Char} : SequenceFree s ↔ ∀ t, ¬ Deletes s t := by
  constructor
  · rintro h t ⟨before, sequence, behind, hsequence, rfl, -⟩
    exact h sequence hsequence ⟨before, behind, by simp⟩
  · rintro h sequence hsequence ⟨before, behind, rfl⟩
    exact h (before ++ behind) ⟨before, sequence, behind, hsequence, by simp, rfl⟩

/-- A text without an escape character is free of sequences. -/
theorem sequenceFree_of_not_mem {s : List Char} (h : escapeChar ∉ s) : SequenceFree s := by
  intro sequence hsequence hpart
  obtain ⟨body, rfl, -, -⟩ := hsequence.eq_cons
  exact h (hpart.subset List.mem_cons_self)

/-- A text that is free of sequences is as far as deletions get. -/
theorem SequenceFree.eq_of_deletes {s t : List Char} (hs : SequenceFree s)
    (h : ReflTransGen Deletes s t) : t = s := by
  rcases h.cases_head with rfl | ⟨u, hu, -⟩
  · rfl
  · exact absurd hu (sequenceFree_iff.mp hs u)

/-- Two texts may each be shortened where they are joined. -/
theorem deletes_joined {s t u v : List Char} (hst : ReflTransGen Deletes s t)
    (huv : ReflTransGen Deletes u v) : ReflTransGen Deletes (s ++ u) (t ++ v) := by
  have hleft : ReflTransGen Deletes (s ++ u) (t ++ u) := by
    refine ReflTransGen.lift (· ++ u) ?_ _ _ hst
    intro a b hab
    simpa using hab.append [] u
  have hright : ReflTransGen Deletes (t ++ u) (t ++ v) := by
    refine ReflTransGen.lift (t ++ ·) ?_ _ _ huv
    intro a b hab
    simpa using hab.append t []
  exact hleft.trans hright

/-- Two deletions, of which the first is no later in the text, have the same result or one in
common. -/
theorem deletes_apart {before gap s t u v : List Char} (hs : IsSequence s) (ht : IsSequence t)
    (h : s ++ u = gap ++ (t ++ v)) :
    before ++ u = before ++ gap ++ v ∨
      ∃ w, Deletes (before ++ u) w ∧ Deletes (before ++ gap ++ v) w := by
  rcases hs.apart ht h with ⟨rfl, rfl⟩ | ⟨mid, rfl, rfl⟩
  · left
    rw [List.append_nil]
  · right
    exact ⟨before ++ mid ++ v, ⟨before ++ mid, t, v, ht, by simp, rfl⟩,
      ⟨before, s, mid ++ v, hs, by simp, by simp⟩⟩

/-- **The diamond.** Of two deletions in a text, each leaves the other one possible, or they are
the same. -/
theorem Deletes.diamond {s t u : List Char} (ht : Deletes s t) (hu : Deletes s u) :
    t = u ∨ ∃ w, Deletes t w ∧ Deletes u w := by
  obtain ⟨before, x, behind, hx, rfl, rfl⟩ := ht
  obtain ⟨before', y, behind', hy, hs, rfl⟩ := hu
  rcases List.append_eq_append_iff.mp hs with ⟨gap, rfl, hgap⟩ | ⟨gap, rfl, hgap⟩
  · exact deletes_apart hx hy hgap
  · have hapart := @deletes_apart before' gap y x _ _ hy hx hgap
    rcases hapart with heq | ⟨w, hw, hw'⟩
    · exact Or.inl heq.symm
    · exact Or.inr ⟨w, hw', hw⟩

/-- **Confluence.** What two chains of deletions lead to has a common continuation. -/
theorem deletes_confluent {s t u : List Char} (ht : ReflTransGen Deletes s t)
    (hu : ReflTransGen Deletes s u) : ∃ w, ReflTransGen Deletes t w ∧ ReflTransGen Deletes u w := by
  refine Relation.church_rosser ?_ ht hu
  intro a b c hb hc
  rcases hb.diamond hc with rfl | ⟨w, hbw, hcw⟩
  · exact ⟨b, .refl, .refl⟩
  · exact ⟨w, .single hbw, .single hcw⟩

/-! ## Deleting from left to right -/

/-- A control sequence at the start of a text shows in what is behind it. -/
theorem isSome_afterSequence?_iff {s : List Char} :
    (afterSequence? s).isSome = true ↔ ∃ sequence, IsSequence sequence ∧ sequence <+: s := by
  rw [Option.isSome_iff_exists]
  constructor
  · rintro ⟨behind, h⟩
    obtain ⟨sequence, hsequence, rfl⟩ := afterSequence?_eq_some_iff.mp h
    exact ⟨sequence, hsequence, List.prefix_append _ _⟩
  · rintro ⟨sequence, hsequence, behind, rfl⟩
    exact ⟨behind, afterSequence?_eq_some_iff.mpr ⟨sequence, hsequence, rfl⟩⟩

/-- The search finds a control sequence unless the text is free of them. -/
theorem hasSequence_eq_false_iff {s : List Char} : hasSequence s = false ↔ SequenceFree s := by
  induction s with
  | nil =>
    refine iff_of_true rfl ?_
    intro sequence hsequence h
    obtain ⟨body, rfl, -, -⟩ := hsequence.eq_cons
    exact absurd (List.eq_nil_of_infix_nil h) (List.cons_ne_nil _ _)
  | cons c rest ih =>
    rw [hasSequence, Bool.or_eq_false_iff, ih, ← Bool.not_eq_true, isSome_afterSequence?_iff]
    constructor
    · rintro ⟨hhead, hrest⟩ sequence hsequence h
      rcases List.infix_cons_iff.mp h with h | h
      · exact hhead ⟨sequence, hsequence, h⟩
      · exact hrest sequence hsequence h
    · intro h
      refine ⟨?_, ?_⟩
      · rintro ⟨sequence, hsequence, hhead⟩
        exact h sequence hsequence hhead.isInfix
      · intro sequence hsequence hrest
        exact h sequence hsequence (List.infix_cons hrest)

/-- One pass is a chain of deletions. -/
theorem deletes_dropSequences (s : List Char) : ReflTransGen Deletes s (dropSequences s) := by
  fun_induction dropSequences s with
  | case1 => exact .refl
  | case2 c rest behind h ih =>
    obtain ⟨sequence, hsequence, hs⟩ := afterSequence?_eq_some_iff.mp h
    exact .head ⟨[], sequence, behind, hsequence, hs, rfl⟩ ih
  | case3 c rest h ih =>
    refine ReflTransGen.lift (c :: ·) ?_ _ _ ih
    intro s t hst
    simpa using hst.append [c] []

/-- A chain of deletions never makes a text longer. -/
theorem length_le_of_deletes {s t : List Char} (h : ReflTransGen Deletes s t) :
    t.length ≤ s.length := by
  induction h with
  | refl => exact le_rfl
  | tail _ hlast ih => exact le_trans (le_of_lt hlast.length_lt) ih

/-- A pass that makes a text no shorter has found no sequence. -/
theorem sequenceFree_of_length_dropSequences {s : List Char}
    (h : ¬ (dropSequences s).length < s.length) : SequenceFree s := by
  rw [← hasSequence_eq_false_iff]
  fun_induction dropSequences s with
  | case1 => rfl
  | case2 c rest behind hbehind _ =>
    have hle := length_le_of_deletes (deletes_dropSequences behind)
    have hlt := length_afterSequence? hbehind
    omega
  | case3 c rest hnone ih =>
    rw [hasSequence, hnone, ih (by simpa using h)]
    rfl

/-! ## Normal forms -/

/-- What the deletion of control sequences makes of a text, whatever their order. -/
structure NormalForm (s normal : List Char) : Prop where
  /-- No sequence is left. -/
  free : SequenceFree normal
  /-- Deletions never miss the normal form: it can still be reached from wherever they led. -/
  reached : ∀ t, ReflTransGen Deletes s t → ReflTransGen Deletes t normal
  /-- Deletions that can go no further have led to the normal form. -/
  unique : ∀ t, ReflTransGen Deletes s t → SequenceFree t → t = normal

/-- Whatever is reached and free of sequences is the normal form. -/
theorem normalForm_of_deletes {s normal : List Char} (h : ReflTransGen Deletes s normal)
    (hfree : SequenceFree normal) : NormalForm s normal := by
  have hreached : ∀ t, ReflTransGen Deletes s t → ReflTransGen Deletes t normal := by
    intro t ht
    obtain ⟨w, htw, hw⟩ := deletes_confluent ht h
    rwa [hfree.eq_of_deletes hw] at htw
  refine ⟨hfree, hreached, ?_⟩
  intro t ht htfree
  exact (htfree.eq_of_deletes (hreached t ht)).symm

/-- Passes from left to right, until nothing is found, delete all sequences. -/
theorem deletes_settle (s : List Char) :
    ReflTransGen Deletes s (settle s) ∧ SequenceFree (settle s) := by
  fun_induction settle s with
  | case1 s _ ih => exact ⟨(deletes_dropSequences s).trans ih.1, ih.2⟩
  | case2 s h => exact ⟨.refl, sequenceFree_of_length_dropSequences h⟩

/-- **Normal forms.** Every text has a normal form, and `settle` computes it. -/
theorem normalForm_settle (s : List Char) : NormalForm s (settle s) :=
  normalForm_of_deletes (deletes_settle s).1 (deletes_settle s).2

/-- A text without sequences is its own normal form. -/
theorem SequenceFree.settle_eq {s : List Char} (h : SequenceFree s) : settle s = s :=
  h.eq_of_deletes (deletes_settle s).1

/-! ## Returns at the end -/

/-- A return at the end joins no halves of a sequence. -/
theorem SequenceFree.append_return {s : List Char} (h : SequenceFree s) :
    SequenceFree (s ++ ['\r']) := by
  intro sequence hsequence hpart
  rcases List.infix_concat_iff.mp hpart with hsuffix | hpart
  · rcases List.suffix_concat_iff.mp hsuffix with rfl | ⟨t, rfl, -⟩
    · obtain ⟨body, hbody, -, -⟩ := hsequence.eq_cons
      exact List.cons_ne_nil _ _ hbody.symm
    · exact hsequence.return_not_mem (by simp)
  · exact h sequence hsequence hpart

/-- A return at the end stays there. -/
theorem settle_append_return (s : List Char) : settle (s ++ ['\r']) = settle s ++ ['\r'] := by
  have hchain : ReflTransGen Deletes (s ++ ['\r']) (settle s ++ ['\r']) := by
    refine ReflTransGen.lift (· ++ ['\r']) ?_ _ _ (deletes_settle s).1
    intro t u htu
    simpa using htu.append [] ['\r']
  have hfree : SequenceFree (settle s ++ ['\r']) := (deletes_settle s).2.append_return
  exact ((normalForm_settle _).unique _ hchain hfree).symm

/-- Cutting the returns is dropping characters from the right. -/
theorem trimReturns_eq_rdropWhile (s : List Char) : trimReturns s = s.rdropWhile (· == '\r') := rfl

/-- Nothing is cut from a text that does not end in a return. -/
theorem trimReturns_eq_self_iff {s : List Char} :
    trimReturns s = s ↔ s.getLast? ≠ some '\r' := by
  rw [trimReturns_eq_rdropWhile, List.rdropWhile_eq_self_iff]
  constructor
  · intro h hlast
    have hne : s ≠ [] := by
      rintro rfl
      cases hlast
    rw [List.getLast?_eq_some_getLast hne, Option.some.injEq] at hlast
    exact h hne (by simp [hlast])
  · intro h hne hlast
    rw [List.getLast?_eq_some_getLast hne] at h
    exact h (by simpa using hlast)

/-- **Trimming.** The returns at the end may be cut before or after the deletions. -/
theorem trimReturns_settle_trimReturns (s : List Char) :
    trimReturns (settle (trimReturns s)) = trimReturns (settle s) := by
  induction s using List.reverseRecOn with
  | nil => rfl
  | append_singleton s c ih =>
    by_cases hc : c = '\r'
    · subst hc
      have hcut : ∀ t : List Char, trimReturns (t ++ ['\r']) = trimReturns t := fun t =>
        List.rdropWhile_concat_pos _ t '\r' (by decide)
      rw [hcut, settle_append_return, hcut, ih]
    · have hself : trimReturns (s ++ [c]) = s ++ [c] := by
        rw [trimReturns_eq_self_iff, List.getLast?_concat]
        simpa using hc
      rw [hself]

/-- Cutting returns makes no sequence. -/
theorem SequenceFree.trimReturns {s : List Char} (h : SequenceFree s) :
    SequenceFree (trimReturns s) := by
  intro sequence hsequence hpart
  exact h sequence hsequence (hpart.trans (List.rdropWhile_prefix _ s).isInfix)

/-! ## Stripping -/

/-- The visible characters are the normal form without the returns at its end. -/
theorem visible_eq (s : List Char) : visible s = trimReturns (settle s) :=
  trimReturns_settle_trimReturns s

/-- Visible characters hold no sequence. -/
theorem sequenceFree_visible (s : List Char) : SequenceFree (visible s) := by
  rw [visible_eq]
  exact (deletes_settle s).2.trimReturns

/-- A text is visible as it is when it holds no sequence and ends in no return. -/
theorem visible_eq_self_iff {s : List Char} :
    visible s = s ↔ SequenceFree s ∧ s.getLast? ≠ some '\r' := by
  constructor
  · intro h
    refine ⟨h ▸ sequenceFree_visible s, ?_⟩
    rw [← trimReturns_eq_self_iff, ← h, visible_eq]
    exact List.rdropWhile_idempotent _ _
  · rintro ⟨hfree, hlast⟩
    rw [visible_eq, hfree.settle_eq, trimReturns_eq_self_iff.mpr hlast]

/-- Deletions leave what is visible as it is. -/
theorem visible_eq_of_deletes {s t : List Char} (h : ReflTransGen Deletes s t) :
    visible s = visible t := by
  have hchain : ReflTransGen Deletes s (settle t) := h.trans (deletes_settle t).1
  have hsettle : settle t = settle s :=
    (normalForm_settle s).unique _ hchain (deletes_settle t).2
  rw [visible_eq, visible_eq, hsettle]

/-- Visible characters are visible as they are. -/
theorem visible_visible (s : List Char) : visible (visible s) = visible s := by
  rw [visible_eq_self_iff]
  refine ⟨sequenceFree_visible s, ?_⟩
  rw [← trimReturns_eq_self_iff, visible_eq]
  exact List.rdropWhile_idempotent _ _

/-- The visible text of a line is visible as it is. -/
theorem strip_strip (line : String) : strip (strip line) = strip line := by
  rw [strip, strip, String.toList_ofList, visible_visible]

/-- Lines of visible text are visible as they are. -/
theorem map_strip_map_strip (lines : List String) :
    (lines.map strip).map strip = lines.map strip := by
  rw [List.map_map]
  exact List.map_congr_left fun line _ => strip_strip line

/-- **Stripping computes a normal form.** Deleting control sequences one at a time always ends, and
in whatever order they are deleted, the same text without sequences is left. Stripping a line gives
that text without the returns at its end; hence it is idempotent, leaves no sequence, and changes
nothing just where there is no sequence and no return at the end. -/
theorem strip_computes_normal_form :
    (WellFounded fun t s => Deletes s t) ∧
      ∀ line : String,
        (∃ normal, NormalForm line.toList normal ∧
          strip line = String.ofList (trimReturns normal)) ∧
        strip (strip line) = strip line ∧
        containsSequence (strip line) = false ∧
        (strip line = line ↔ SequenceFree line.toList ∧ line.toList.getLast? ≠ some '\r') := by
  refine ⟨wellFounded_deletes, ?_⟩
  intro line
  have hself : ∀ text : String, strip text = text ↔ visible text.toList = text.toList := by
    intro text
    rw [strip, ← String.toList_inj, String.toList_ofList]
  have hfree : SequenceFree (strip line).toList := by
    rw [strip, String.toList_ofList]
    exact sequenceFree_visible _
  refine ⟨⟨settle line.toList, normalForm_settle _, ?_⟩, ?_, ?_, ?_⟩
  · rw [strip, visible_eq]
  · rw [hself, visible_eq_self_iff]
    refine ⟨hfree, ?_⟩
    rw [← trimReturns_eq_self_iff, strip, String.toList_ofList, visible_eq]
    exact List.rdropWhile_idempotent _ _
  · exact hasSequence_eq_false_iff.mpr hfree
  · rw [hself, visible_eq_self_iff]

/-- Deleting the inner sequence joins the halves of the outer one, which goes as well. -/
example : strip "\x1b[\x1b[0m31mok\r\x1b[0m\r" = "ok" := by
  decide +kernel

end TraceScan
