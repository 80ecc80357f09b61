import Mathlib.Logic.Relation
import TraceScan.Pattern.Needs

/-!
# Ways through a pattern

`Pattern.run` tries the ways to read a pattern one after the other, and the rest of the search
accepts one or refuses them all. The module says which ways there are, without an order among them:
`Way p s t`. A run finds one of them, and it finds one whenever some way is accepted
(`run_realizes`). Hence the order does not matter where all accepted ways end at one place
(`run_eq_of_unique`), and a search finds the end of a way that starts somewhere in the text
(`exists_way_of_searchFrom`).
-/

namespace TraceScan.Pattern

open Relation (ReflTransGen)

/-! ## Ways -/

/-- `n` steps of a relation. -/
def Rounds (step : Place → Place → Prop) : Nat → Place → Place → Prop
  | 0, s, t => t = s
  | n + 1, s, t => ∃ m, step s m ∧ Rounds step n m t

/-- A step that takes a character at least. -/
def Taking (step : Place → Place → Prop) (s t : Place) : Prop :=
  step s t ∧ t.rest.length < s.rest.length

/-- Whether a pattern can be read from one place up to another. In a repetition without an upper
bound, every round takes a character, or else the first one is the only one. -/
def Way : Pattern → Place → Place → Prop
  | empty, s, t => t = s
  | one set, s, t =>
    ∃ c rest, s.rest = c :: rest ∧ set.mem c = true ∧ t = ⟨c :: s.before, rest, s.groups⟩
  | span set _, s, t =>
    ∃ used rest, s.rest = used ++ rest ∧ (∀ c ∈ used, set.mem c = true) ∧
      t = ⟨used.reverse ++ s.before, rest, s.groups⟩
  | look a, s, t => a.holds s.before s.rest = true ∧ t = s
  | seq p q, s, t => ∃ m, Way p s m ∧ Way q m t
  | alt p q, s, t => Way p s t ∨ Way q s t
  | group i p, s, t =>
    ∃ m, Way p s m ∧ t = { m with groups := (i, ⟨s.rest, m.rest⟩) :: m.groups }
  | many p _, s, t =>
    ∃ m, Way p s m ∧
      if m.rest.length < s.rest.length then ReflTransGen (Taking (Way p)) m t else t = m
  | copies n p, s, t => Rounds (Way p) n s t
  | upTo n p _, s, t => ∃ m ≤ n, Rounds (Way p) m s t

/-! ## Runs and ways -/

/-- Whether the answers of a run are those of the continuation behind the steps of a relation: each
answer comes from some step, and there is one if a step is accepted. -/
structure Realizes (α : Type) (run : (Place → Option α) → Place → Option α)
    (step : Place → Place → Prop) : Prop where
  sound : ∀ k s a, run k s = some a → ∃ t, step s t ∧ k t = some a
  complete : ∀ k s t, step s t → (k t).isSome → (run k s).isSome

variable {α : Type}

/-- One of two possibilities is chosen if there is one. -/
theorem isSome_choose {greedy : Bool} {more less : Unit → Option α} :
    (choose greedy more less).isSome = ((more ()).isSome || (less ()).isSome) := by
  unfold choose
  cases greedy <;> cases more () <;> cases less () <;> rfl

section Spans

variable {set : CharSet} {k : List Char → List Char → Option α}

/-- A greedy span takes characters of its set up to a place that is accepted. -/
theorem spanGreedy_sound {a : α} {before rest : List Char}
    (h : spanGreedy set k before rest = some a) :
    ∃ used behind, rest = used ++ behind ∧ (∀ c ∈ used, set.mem c = true) ∧
      k (used.reverse ++ before) behind = some a := by
  induction rest generalizing before with
  | nil => exact ⟨[], [], rfl, by simp, h⟩
  | cons c rest ih =>
    unfold spanGreedy at h
    split at h
    · rename_i hc
      split at h
      · rename_i hmore
        obtain ⟨used, behind, rfl, hused, hk⟩ := ih (hmore.trans h)
        exact ⟨c :: used, behind, rfl, List.forall_mem_cons.mpr ⟨hc, hused⟩, by simpa using hk⟩
      · exact ⟨[], c :: rest, rfl, by simp, h⟩
    · exact ⟨[], c :: rest, rfl, by simp, h⟩

/-- A greedy span finds an accepted place if there is one. -/
theorem spanGreedy_complete {used behind : List Char} (hused : ∀ c ∈ used, set.mem c = true)
    {before : List Char} (hk : (k (used.reverse ++ before) behind).isSome) :
    (spanGreedy set k before (used ++ behind)).isSome := by
  induction used generalizing before with
  | nil =>
    cases behind with
    | nil => exact hk
    | cons c behind =>
      rw [List.nil_append, spanGreedy]
      split
      · split
        · rfl
        · exact hk
      · exact hk
  | cons c used ih =>
    obtain ⟨hc, hused⟩ := List.forall_mem_cons.mp hused
    have hmore : (spanGreedy set k (c :: before) (used ++ behind)).isSome :=
      ih hused (by simpa using hk)
    obtain ⟨a, ha⟩ := Option.isSome_iff_exists.mp hmore
    rw [List.cons_append, spanGreedy, if_pos hc, ha]
    rfl

/-- A lazy span takes characters of its set up to a place that is accepted. -/
theorem spanLazy_sound {a : α} {before rest : List Char}
    (h : spanLazy set k before rest = some a) :
    ∃ used behind, rest = used ++ behind ∧ (∀ c ∈ used, set.mem c = true) ∧
      k (used.reverse ++ before) behind = some a := by
  induction rest generalizing before with
  | nil => exact ⟨[], [], rfl, by simp, h⟩
  | cons c rest ih =>
    unfold spanLazy at h
    split at h
    · rename_i hk
      exact ⟨[], c :: rest, rfl, by simp, hk.trans h⟩
    · split at h
      · rename_i hc
        obtain ⟨used, behind, rfl, hused, hk⟩ := ih h
        exact ⟨c :: used, behind, rfl, List.forall_mem_cons.mpr ⟨hc, hused⟩, by simpa using hk⟩
      · cases h

/-- A lazy span finds an accepted place if there is one. -/
theorem spanLazy_complete {used behind : List Char} (hused : ∀ c ∈ used, set.mem c = true)
    {before : List Char} (hk : (k (used.reverse ++ before) behind).isSome) :
    (spanLazy set k before (used ++ behind)).isSome := by
  induction used generalizing before with
  | nil =>
    obtain ⟨a, ha⟩ := Option.isSome_iff_exists.mp hk
    replace ha : k before behind = some a := ha
    cases behind with
    | nil => exact hk
    | cons c behind =>
      rw [List.nil_append, spanLazy, ha]
      rfl
  | cons c used ih =>
    obtain ⟨hc, hused⟩ := List.forall_mem_cons.mp hused
    rw [List.cons_append, spanLazy]
    split
    · rfl
    · rw [if_pos hc]
      exact ih hused (by simpa using hk)

end Spans

section Repetitions

variable {run : (Place → Option α) → Place → Option α} {step : Place → Place → Prop}

/-- Further rounds are steps that take a character. -/
theorem againAux_sound (h : Realizes α run step) (greedy : Bool) {k : Place → Option α}
    {rounds : Nat} {s : Place} {a : α} (hrun : againAux run greedy k rounds s = some a) :
    ∃ t, ReflTransGen (Taking step) s t ∧ k t = some a := by
  induction rounds generalizing s with
  | zero => exact ⟨s, .refl, hrun⟩
  | succ rounds ih =>
    rcases choose_eq_some hrun with hmore | hless
    · obtain ⟨m, hm, hk⟩ := h.sound _ _ _ hmore
      split at hk
      · rename_i hshort
        obtain ⟨t, ht, hkt⟩ := ih hk
        exact ⟨t, .head ⟨hm, hshort⟩ ht, hkt⟩
      · cases hk
    · exact ⟨s, .refl, hless⟩

/-- As many rounds as there are characters left suffice. -/
theorem againAux_complete (h : Realizes α run step) (greedy : Bool) {k : Place → Option α}
    {s t : Place} (hst : ReflTransGen (Taking step) s t) (hk : (k t).isSome) {rounds : Nat}
    (hrounds : s.rest.length ≤ rounds) : (againAux run greedy k rounds s).isSome := by
  induction hst using ReflTransGen.head_induction_on generalizing rounds with
  | refl =>
    cases rounds with
    | zero => exact hk
    | succ rounds => rw [againAux, isSome_choose, hk, Bool.or_true]
  | @head s m hsm _ ih =>
    obtain ⟨hstep, hshort⟩ := hsm
    cases rounds with
    | zero => omega
    | succ rounds =>
      have hmore : (againAux run greedy k rounds m).isSome := ih (by omega)
      have hround := h.complete (fun t => if t.rest.length < s.rest.length then
        againAux run greedy k rounds t else none) s m hstep (by rw [if_pos hshort]; exact hmore)
      rw [againAux, isSome_choose, hround, Bool.true_or]

/-- Repetition without an upper bound. -/
theorem realizes_manyAux (h : Realizes α run step) (greedy : Bool) :
    Realizes α (manyAux run greedy) fun s t =>
      ∃ m, step s m ∧
        if m.rest.length < s.rest.length then ReflTransGen (Taking step) m t else t = m where
  sound k s a hrun := by
    obtain ⟨m, hm, hk⟩ := h.sound _ _ _ hrun
    by_cases hshort : m.rest.length < s.rest.length
    · rw [if_pos hshort] at hk
      obtain ⟨t, ht, hkt⟩ := againAux_sound h greedy hk
      exact ⟨t, ⟨m, hm, by rw [if_pos hshort]; exact ht⟩, hkt⟩
    · rw [if_neg hshort] at hk
      exact ⟨m, ⟨m, hm, by rw [if_neg hshort]⟩, hk⟩
  complete k s t hst hk := by
    obtain ⟨m, hm, hmt⟩ := hst
    refine h.complete _ s m hm ?_
    by_cases hshort : m.rest.length < s.rest.length
    · rw [if_pos hshort] at hmt ⊢
      exact againAux_complete h greedy hmt hk (Nat.le_refl _)
    · rw [if_neg hshort] at hmt ⊢
      exact hmt ▸ hk

/-- Repetition a fixed number of times. -/
theorem realizes_copiesAux (h : Realizes α run step) (n : Nat) :
    Realizes α (fun k => copiesAux run k n) (Rounds step n) := by
  induction n with
  | zero => exact ⟨fun k s a hrun => ⟨s, rfl, hrun⟩, fun k s t hst hk => hst ▸ hk⟩
  | succ n ih =>
    constructor
    · intro k s a hrun
      obtain ⟨m, hm, hrest⟩ := h.sound _ _ _ hrun
      obtain ⟨t, ht, hk⟩ := ih.sound _ _ _ hrest
      exact ⟨t, ⟨m, hm, ht⟩, hk⟩
    · rintro k s t ⟨m, hm, hmt⟩ hk
      exact h.complete _ s m hm (ih.complete k m t hmt hk)

/-- Repetition up to a number of times. -/
theorem realizes_upToAux (h : Realizes α run step) (greedy : Bool) (n : Nat) :
    Realizes α (fun k => upToAux run greedy k n) fun s t => ∃ m ≤ n, Rounds step m s t := by
  induction n with
  | zero =>
    constructor
    · exact fun k s a hrun => ⟨s, ⟨0, Nat.le_refl 0, rfl⟩, hrun⟩
    · rintro k s t ⟨m, hm, hmt⟩ hk
      obtain rfl := Nat.le_zero.mp hm
      obtain rfl : t = s := hmt
      exact hk
  | succ n ih =>
    constructor
    · intro k s a hrun
      rcases choose_eq_some hrun with hmore | hless
      · obtain ⟨u, hu, hrest⟩ := h.sound _ _ _ hmore
        obtain ⟨t, ⟨m, hm, ht⟩, hk⟩ := ih.sound _ _ _ hrest
        exact ⟨t, ⟨m + 1, Nat.succ_le_succ hm, u, hu, ht⟩, hk⟩
      · exact ⟨s, ⟨0, Nat.zero_le _, rfl⟩, hless⟩
    · rintro k s t ⟨m, hm, hmt⟩ hk
      show (choose greedy _ _).isSome
      rw [isSome_choose]
      cases m with
      | zero =>
        obtain rfl : t = s := hmt
        rw [hk, Bool.or_true]
      | succ m =>
        obtain ⟨u, hu, hut⟩ := hmt
        have hrest := ih.complete k u t ⟨m, Nat.le_of_succ_le_succ hm, hut⟩ hk
        rw [h.complete _ s u hu hrest, Bool.true_or]

end Repetitions

section Constructors

variable {p q : Pattern}

/-- A set takes one character of its own. -/
theorem realizes_one (set : CharSet) : Realizes α (run (one set)) (Way (one set)) := by
  constructor
  · intro k s a h
    unfold run at h
    split at h
    · cases h
    · rename_i c rest hrest
      split at h
      · exact ⟨_, ⟨c, rest, hrest, ‹_›, rfl⟩, h⟩
      · cases h
  · rintro k s t ⟨c, rest, hrest, hc, rfl⟩ hk
    unfold run
    rw [hrest]
    dsimp only
    rw [if_pos hc]
    exact hk

/-- A span takes characters of its set, whether it prefers to take many or few. -/
theorem realizes_span (set : CharSet) (greedy : Bool) :
    Realizes α (run (span set greedy)) (Way (span set greedy)) := by
  constructor
  · intro k s a h
    obtain ⟨used, rest, hrest, hused, hk⟩ : ∃ used behind, s.rest = used ++ behind ∧
        (∀ c ∈ used, set.mem c = true) ∧
          k ⟨used.reverse ++ s.before, behind, s.groups⟩ = some a := by
      cases greedy with
      | true => exact spanGreedy_sound h
      | false => exact spanLazy_sound h
    exact ⟨_, ⟨used, rest, hrest, hused, rfl⟩, hk⟩
  · rintro k s t ⟨used, rest, hrest, hused, rfl⟩ hk
    cases greedy <;> unfold run <;> rw [hrest]
    · exact spanLazy_complete hused hk
    · exact spanGreedy_complete hused hk

/-- An assertion takes nothing. -/
theorem realizes_look (assertion : Assertion) :
    Realizes α (run (look assertion)) (Way (look assertion)) := by
  constructor
  · intro k s a h
    unfold run at h
    split at h
    · exact ⟨s, ⟨‹_›, rfl⟩, h⟩
    · cases h
  · rintro k s t ⟨hholds, rfl⟩ hk
    unfold run
    rw [if_pos hholds]
    exact hk

/-- Two patterns one after the other. -/
theorem realizes_seq (hp : Realizes α (run p) (Way p)) (hq : Realizes α (run q) (Way q)) :
    Realizes α (run (seq p q)) (Way (seq p q)) := by
  constructor
  · intro k s a h
    obtain ⟨m, hm, hrest⟩ := hp.sound _ _ _ h
    obtain ⟨t, ht, hk⟩ := hq.sound _ _ _ hrest
    exact ⟨t, ⟨m, hm, ht⟩, hk⟩
  · rintro k s t ⟨m, hm, hmt⟩ hk
    exact hp.complete _ s m hm (hq.complete k m t hmt hk)

/-- One of two patterns. -/
theorem realizes_alt (hp : Realizes α (run p) (Way p)) (hq : Realizes α (run q) (Way q)) :
    Realizes α (run (alt p q)) (Way (alt p q)) := by
  constructor
  · intro k s a h
    unfold run at h
    split at h
    · rename_i hleft
      obtain ⟨t, ht, hk⟩ := hp.sound _ _ _ (hleft.trans h)
      exact ⟨t, Or.inl ht, hk⟩
    · obtain ⟨t, ht, hk⟩ := hq.sound _ _ _ h
      exact ⟨t, Or.inr ht, hk⟩
  · rintro k s t (hst | hst) hk
    · obtain ⟨a, ha⟩ := Option.isSome_iff_exists.mp (hp.complete k s t hst hk)
      unfold run
      rw [ha]
      rfl
    · have hright := hq.complete k s t hst hk
      unfold run
      split
      · rfl
      · exact hright

/-- A group notes what its pattern takes. -/
theorem realizes_group (i : Nat) (hp : Realizes α (run p) (Way p)) :
    Realizes α (run (group i p)) (Way (group i p)) := by
  constructor
  · intro k s a h
    obtain ⟨m, hm, hk⟩ := hp.sound _ _ _ h
    exact ⟨_, ⟨m, hm, rfl⟩, hk⟩
  · rintro k s t ⟨m, hm, rfl⟩ hk
    exact hp.complete _ s m hm hk

end Constructors

/-- **Runs.** A run of a pattern answers with what the continuation says behind some way through the
pattern, and it answers if the continuation accepts some way. -/
theorem run_realizes (p : Pattern) : Realizes α (run p) (Way p) := by
  induction p with
  | empty => exact ⟨fun k s a h => ⟨s, rfl, h⟩, fun k s t hst hk => hst ▸ hk⟩
  | one set => exact realizes_one set
  | span set greedy => exact realizes_span set greedy
  | look assertion => exact realizes_look assertion
  | seq p q ihp ihq => exact realizes_seq ihp ihq
  | alt p q ihp ihq => exact realizes_alt ihp ihq
  | group i p ih => exact realizes_group i ih
  | many p greedy ih => exact realizes_manyAux ih greedy
  | copies n p ih => exact realizes_copiesAux ih n
  | upTo n p greedy ih => exact realizes_upToAux ih greedy n

/-- **Unique ends.** Where some way leads to a place, and all ways that the continuation accepts
lead there, a run goes on from that place. -/
theorem run_eq_of_unique {p : Pattern} {k : Place → Option α} {s t : Place} (hst : Way p s t)
    (hunique : ∀ u, Way p s u → (k u).isSome → u = t) : run p k s = k t := by
  cases hrun : run p k s with
  | some a =>
    obtain ⟨u, hu, hk⟩ := (run_realizes p).sound _ _ _ hrun
    obtain rfl := hunique u hu (by rw [hk]; rfl)
    exact hk.symm
  | none =>
    cases hk : k t with
    | none => rfl
    | some a =>
      have hsome := (run_realizes p).complete k s t hst (by rw [hk]; rfl)
      rw [hrun] at hsome
      cases hsome

/-- **Searches.** A match is the end of a way that starts somewhere in the text. -/
theorem exists_way_of_searchFrom {p : Pattern} {before text : List Char} {found : Place}
    (h : searchFrom p before text = some found) :
    ∃ before' rest, rest <:+ text ∧ Way p ⟨before', rest, []⟩ found := by
  have hhere : ∀ {before text : List Char}, run p some ⟨before, text, []⟩ = some found →
      Way p ⟨before, text, []⟩ found := by
    intro before text hrun
    obtain ⟨t, hway, hfound⟩ := (run_realizes p).sound _ _ _ hrun
    exact Option.some.inj hfound ▸ hway
  induction text generalizing before with
  | nil => exact ⟨before, [], List.suffix_rfl, hhere h⟩
  | cons c rest ih =>
    unfold searchFrom at h
    split at h
    · rename_i hrun
      exact ⟨before, c :: rest, List.suffix_rfl, hhere (hrun.trans h)⟩
    · obtain ⟨before', rest', hrest, hway⟩ := ih h
      exact ⟨before', rest', hrest.trans (List.suffix_cons c rest), hway⟩

end TraceScan.Pattern
