import TraceScan.Pattern.Basic

/-!
# What every match has to hold

Some characters must occur in every match of a pattern, such as the digits of a line number. A text
without them holds no match and need not be searched. `find_eq_search` says that asking for them
first never changes what is found.
-/

namespace TraceScan.Pattern

variable {α : Type}

/-! ## Needs -/

/-- Whether a text holds a character of one of the sets. -/
def meets (need : List CharSet) (text : List Char) : Bool :=
  text.any fun c => need.any (·.mem c)

/-- Lists of sets such that every match holds, for each list, a character of one of its sets. -/
def needs : Pattern → List (List CharSet)
  | one set => [[set]]
  | seq p q => p.needs ++ q.needs
  | alt p q =>
    match p.needs, q.needs with
    | a :: _, b :: _ => [a ++ b]
    | _, _ => []
  | group _ p => p.needs
  | many p _ => p.needs
  | copies (_ + 1) p => p.needs
  | _ => []

/-- The end of the first match in a text, after asking whether the text can hold one. -/
def find (p : Pattern) (text : List Char) : Option Place :=
  if p.needs.all fun need => meets need text then p.search text else none

/-! ## Ways through a pattern -/

theorem meets_append {need : List CharSet} {s t : List Char} :
    meets need (s ++ t) = (meets need s || meets need t) := by
  simp [meets]

/-- Every answer of `step` is one of the continuation at a place further on, and what lies between
has all that is needed. -/
def Advances (needs : List (List CharSet))
    (step : (Place → Option α) → Place → Option α) : Prop :=
  ∀ k s a, step k s = some a → ∃ t used, k t = some a ∧ s.rest = used ++ t.rest ∧
    ∀ need ∈ needs, meets need used = true

theorem choose_eq_some {greedy : Bool} {more less : Unit → Option α} {a : α}
    (h : choose greedy more less = some a) : more () = some a ∨ less () = some a := by
  unfold choose at h
  split at h <;> split at h <;> simp_all

theorem spanGreedy_advances {set : CharSet} {k : List Char → List Char → Option α} {a : α}
    (before rest : List Char) (h : spanGreedy set k before rest = some a) :
    ∃ b used r, k b r = some a ∧ rest = used ++ r := by
  induction rest generalizing before with
  | nil => exact ⟨before, [], [], h, rfl⟩
  | cons c rest ih =>
    unfold spanGreedy at h
    split at h
    · split at h
      · rename_i hs
        obtain ⟨b, used, r, hk, rfl⟩ := ih (c :: before) (hs.trans h)
        exact ⟨b, c :: used, r, hk, rfl⟩
      · exact ⟨before, [], c :: rest, h, rfl⟩
    · exact ⟨before, [], c :: rest, h, rfl⟩

theorem spanLazy_advances {set : CharSet} {k : List Char → List Char → Option α} {a : α}
    (before rest : List Char) (h : spanLazy set k before rest = some a) :
    ∃ b used r, k b r = some a ∧ rest = used ++ r := by
  induction rest generalizing before with
  | nil => exact ⟨before, [], [], h, rfl⟩
  | cons c rest ih =>
    unfold spanLazy at h
    split at h
    · rename_i hs
      exact ⟨before, [], c :: rest, hs.trans h, rfl⟩
    · split at h
      · obtain ⟨b, used, r, hk, rfl⟩ := ih (c :: before) h
        exact ⟨b, c :: used, r, hk, rfl⟩
      · cases h

theorem againAux_advances {step : (Place → Option α) → Place → Option α} (greedy : Bool)
    (hstep : Advances [] step) (rounds : Nat) :
    Advances [] fun k => againAux step greedy k rounds := by
  induction rounds with
  | zero => exact fun k s a h => ⟨s, [], h, rfl, by simp⟩
  | succ rounds ih =>
    intro k s a h
    rcases choose_eq_some h with h | h
    · obtain ⟨t, used, hk, hs, -⟩ := hstep _ _ _ h
      split at hk
      · obtain ⟨u, more, hk, ht, -⟩ := ih _ _ _ hk
        exact ⟨u, used ++ more, hk, by simp [hs, ht], by simp⟩
      · cases hk
    · exact ⟨s, [], h, rfl, by simp⟩

theorem Advances.mono {needs : List (List CharSet)}
    {step : (Place → Option α) → Place → Option α} (h : Advances needs step) :
    Advances [] step := fun k s a hs =>
  let ⟨t, used, hk, hr, _⟩ := h k s a hs
  ⟨t, used, hk, hr, by simp⟩

theorem manyAux_advances {needs : List (List CharSet)}
    {step : (Place → Option α) → Place → Option α} (greedy : Bool) (hstep : Advances needs step) :
    Advances needs (manyAux step greedy) := by
  intro k s a h
  obtain ⟨t, used, hk, hs, hn⟩ := hstep _ _ _ h
  split at hk
  · obtain ⟨u, more, hk, ht, -⟩ := againAux_advances greedy hstep.mono _ _ _ _ hk
    exact ⟨u, used ++ more, hk, by simp [hs, ht],
      fun need hm => by simp [meets_append, hn need hm]⟩
  · exact ⟨t, used, hk, hs, hn⟩

theorem copiesAux_advances {step : (Place → Option α) → Place → Option α}
    (hstep : Advances [] step) (n : Nat) : Advances [] fun k => copiesAux step k n := by
  induction n with
  | zero => exact fun k s a h => ⟨s, [], h, rfl, by simp⟩
  | succ n ih =>
    intro k s a h
    obtain ⟨t, used, hk, hs, -⟩ := hstep _ _ _ h
    obtain ⟨u, more, hk, ht, -⟩ := ih _ _ _ hk
    exact ⟨u, used ++ more, hk, by simp [hs, ht], by simp⟩

theorem upToAux_advances {step : (Place → Option α) → Place → Option α} (greedy : Bool)
    (hstep : Advances [] step) (n : Nat) : Advances [] fun k => upToAux step greedy k n := by
  induction n with
  | zero => exact fun k s a h => ⟨s, [], h, rfl, by simp⟩
  | succ n ih =>
    intro k s a h
    rcases choose_eq_some h with h | h
    · obtain ⟨t, used, hk, hs, -⟩ := hstep _ _ _ h
      obtain ⟨u, more, hk, ht, -⟩ := ih _ _ _ hk
      exact ⟨u, used ++ more, hk, by simp [hs, ht], by simp⟩
    · exact ⟨s, [], h, rfl, by simp⟩

/-- **What a pattern takes has all that the pattern needs.** -/
theorem run_advances (p : Pattern) : Advances (α := α) p.needs (run p) := by
  induction p with
  | empty => exact fun k s a h => ⟨s, [], h, rfl, by simp [needs]⟩
  | one set =>
    intro k s a h
    unfold run at h
    split at h
    · cases h
    · rename_i c rest hr
      split at h
      · rename_i hc
        exact ⟨_, [c], h, by simp [hr], by simp [needs, meets, hc]⟩
      · cases h
  | span set greedy =>
    intro k s a h
    cases greedy with
    | true =>
      obtain ⟨b, used, r, hk, hr⟩ := spanGreedy_advances _ _ h
      exact ⟨_, used, hk, hr, by simp [needs]⟩
    | false =>
      obtain ⟨b, used, r, hk, hr⟩ := spanLazy_advances _ _ h
      exact ⟨_, used, hk, hr, by simp [needs]⟩
  | look assertion =>
    intro k s a h
    unfold run at h
    split at h
    · exact ⟨s, [], h, rfl, by simp [needs]⟩
    · cases h
  | seq p q ihp ihq =>
    intro k s a h
    obtain ⟨t, used, hk, hs, hp⟩ := ihp _ _ _ h
    obtain ⟨u, more, hk, ht, hq⟩ := ihq _ _ _ hk
    refine ⟨u, used ++ more, hk, by simp [hs, ht], fun need hm => ?_⟩
    rcases List.mem_append.1 hm with hm | hm
    · simp [meets_append, hp need hm]
    · simp [meets_append, hq need hm]
  | alt p q ihp ihq =>
    intro k s a h
    have side : ∀ (t : Place) (used : List Char),
        ((∀ need ∈ p.needs, meets need used = true) ∨
          (∀ need ∈ q.needs, meets need used = true)) →
        ∀ need ∈ (alt p q).needs, meets need used = true := by
      intro t used hside need hm
      unfold needs at hm
      split at hm
      · rename_i x xs y ys hx hy
        rw [List.mem_singleton] at hm
        subst hm
        rcases hside with hp | hq
        · have := hp x (by simp [hx])
          simp only [meets, List.any_eq_true, List.any_append, Bool.or_eq_true] at this ⊢
          obtain ⟨c, hc, hmem⟩ := this
          exact ⟨c, hc, Or.inl hmem⟩
        · have := hq y (by simp [hy])
          simp only [meets, List.any_eq_true, List.any_append, Bool.or_eq_true] at this ⊢
          obtain ⟨c, hc, hmem⟩ := this
          exact ⟨c, hc, Or.inr hmem⟩
      · simp at hm
    unfold run at h
    split at h
    · rename_i hp
      obtain ⟨t, used, hk, hs, hn⟩ := ihp _ _ _ (hp.trans h)
      exact ⟨t, used, hk, hs, side t used (Or.inl hn)⟩
    · obtain ⟨t, used, hk, hs, hn⟩ := ihq _ _ _ h
      exact ⟨t, used, hk, hs, side t used (Or.inr hn)⟩
  | group i p ih =>
    intro k s a h
    obtain ⟨t, used, hk, hs, hn⟩ := ih _ _ _ h
    exact ⟨_, used, hk, hs, hn⟩
  | many p greedy ih => exact manyAux_advances greedy ih
  | copies n p ih =>
    cases n with
    | zero => exact copiesAux_advances ih.mono 0
    | succ n =>
      intro k s a h
      obtain ⟨t, used, hk, hs, hn⟩ := ih _ _ _ h
      obtain ⟨u, more, hk, ht, -⟩ := copiesAux_advances ih.mono n _ _ _ hk
      exact ⟨u, used ++ more, hk, by simp [hs, ht],
        fun need hm => by simp [meets_append, hn need hm]⟩
  | upTo n p greedy ih => exact upToAux_advances greedy ih.mono n

/-! ## Finding -/

theorem meets_of_searchFrom {p : Pattern} {before text : List Char} {s : Place}
    (h : searchFrom p before text = some s) {need : List CharSet} (hm : need ∈ p.needs) :
    meets need text = true := by
  induction text generalizing before with
  | nil =>
    obtain ⟨t, used, -, hs, hn⟩ := run_advances p _ _ _ h
    have hused : used = [] := (List.append_eq_nil_iff.1 hs.symm).1
    exact hused ▸ hn need hm
  | cons c rest ih =>
    unfold searchFrom at h
    split at h
    · rename_i hrun
      obtain ⟨t, used, -, hs, hn⟩ := run_advances p _ _ _ hrun
      have hs : c :: rest = used ++ t.rest := hs
      rw [hs, meets_append, hn need hm, Bool.true_or]
    · have := ih h
      simp only [meets, List.any_cons, Bool.or_eq_true] at this ⊢
      exact Or.inr this

/-- **Asking for the needed characters first does not change what is found.** -/
@[simp] theorem find_eq_search (p : Pattern) (text : List Char) : p.find text = p.search text := by
  unfold find
  split
  · rfl
  · rename_i h
    cases hs : p.search text with
    | none => rfl
    | some s =>
      refine absurd ?_ h
      simp only [List.all_eq_true]
      exact fun need hm => meets_of_searchFrom hs hm

end TraceScan.Pattern
