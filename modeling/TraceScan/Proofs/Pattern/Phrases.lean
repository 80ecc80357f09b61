import Mathlib.Data.List.Forall2
import TraceScan.Proofs.Pattern.Ways

/-!
# What a match contains

A pattern tells something of the texts that it takes. Where it does not repeat anything, they are
spelled out up to the characters of some sets; where it does, the parts before, between and behind
the repetitions are. Such a part is a list of phrases, and a match contains a text that fits one of
them. So a text in which none of the phrases of a part has a place holds no match:
`search_eq_none`.
-/

namespace TraceScan.Pattern

/-! ## Phrases -/

/-- A text up to the characters of some sets. -/
abbrev Phrase := List CharSet

/-- Whether the characters of a text are in the sets of a phrase, one by one. -/
def Fits (w : Phrase) (text : List Char) : Prop :=
  List.Forall₂ (fun set c => set.mem c = true) w text

/-- The phrases that consist of one of `v` and one of `w`. -/
def joined (v w : List Phrase) : List Phrase :=
  v.flatMap fun x => w.map (x ++ ·)

/-- Texts that fit join to a text that fits. -/
theorem Fits.append {v w : Phrase} {s t : List Char} (hv : Fits v s) (hw : Fits w t) :
    Fits (v ++ w) (s ++ t) :=
  List.rel_append hv hw

/-- A phrase of both kinds joined is one of the joined phrases. -/
theorem mem_joined {v w : List Phrase} {x y : Phrase} (hx : x ∈ v) (hy : y ∈ w) :
    x ++ y ∈ joined v w :=
  List.mem_flatMap.mpr ⟨x, hx, List.mem_map_of_mem hy⟩

/-- Whether a part of a text, in the given place of it, fits one of some phrases. -/
def Contains (place : List Char → List Char → Prop) (phrases : List Phrase) (text : List Char) :
    Prop :=
  ∃ w ∈ phrases, ∃ part, Fits w part ∧ place part text

/-- A part in one place is a part in another place of another text, if all parts are. -/
theorem Contains.imp {place place' : List Char → List Char → Prop} {phrases : List Phrase}
    {s t : List Char} (h : Contains place phrases s)
    (himp : ∀ part, place part s → place' part t) : Contains place' phrases t := by
  obtain ⟨w, hw, part, hfits, hpart⟩ := h
  exact ⟨w, hw, part, hfits, himp part hpart⟩

/-- Parts of two texts are joined to a part of a third one. -/
theorem Contains.join {place place' place'' : List Char → List Char → Prop}
    {v w : List Phrase} {s t u : List Char} (hs : Contains place v s) (ht : Contains place' w t)
    (hjoin : ∀ x y, place x s → place' y t → place'' (x ++ y) u) :
    Contains place'' (joined v w) u := by
  obtain ⟨x, hx, part, hfits, hpart⟩ := hs
  obtain ⟨y, hy, part', hfits', hpart'⟩ := ht
  exact ⟨x ++ y, mem_joined hx hy, part ++ part', hfits.append hfits', hjoin _ _ hpart hpart'⟩

/-! ## Shapes -/

/-- What is known of a text: that it fits one of some phrases as a whole, or that it starts with one
of `front`, contains one of each list of `inner`, and ends with one of `back`. -/
inductive Shape where
  | whole (phrases : List Phrase)
  | framed (front : List Phrase) (inner : List (List Phrase)) (back : List Phrase)

namespace Shape

/-- The shape of any text. -/
def anything : Shape :=
  framed [[]] [] [[]]

/-- The shape of a text of one shape before a text of another. -/
def append : Shape → Shape → Shape
  | whole v, whole w => whole (joined v w)
  | whole v, framed front inner back => framed (joined v front) inner back
  | framed front inner back, whole w => framed front inner (joined back w)
  | framed front inner back, framed front' inner' back' =>
    framed front (inner ++ joined back front' :: inner') back'

/-- The shape of a text of one of two shapes. -/
def either : Shape → Shape → Shape
  | whole v, whole w => whole (v ++ w)
  | _, _ => anything

/-- Whether a text has a shape. -/
def Allows : Shape → List Char → Prop
  | whole phrases, text => Contains Eq phrases text
  | framed front inner back, text =>
    Contains List.IsPrefix front text ∧ (∀ phrases ∈ inner, Contains List.IsInfix phrases text) ∧
      Contains List.IsSuffix back text

/-- The lists of phrases of which one has a place in each text of a shape. -/
def parts : Shape → List (List Phrase)
  | whole phrases => [phrases]
  | framed front inner back => front :: inner ++ [back]

/-- Any text is allowed. -/
theorem allows_anything (text : List Char) : anything.Allows text :=
  ⟨⟨[], by simp, [], .nil, List.nil_prefix⟩, by simp, ⟨[], by simp, [], .nil, List.nil_suffix⟩⟩

/-- Texts of two shapes, one before the other. -/
theorem Allows.append {a b : Shape} {s t : List Char} (ha : a.Allows s) (hb : b.Allows t) :
    (a.append b).Allows (s ++ t) := by
  have hinfix : ∀ part, part <:+: t → part <:+: s ++ t :=
    fun part hpart => hpart.trans (List.suffix_append s t).isInfix
  have hinfix' : ∀ part, part <:+: s → part <:+: s ++ t :=
    fun part hpart => hpart.trans (List.prefix_append s t).isInfix
  cases a with
  | whole v =>
    cases b with
    | whole w => exact ha.join hb fun x y hx hy => by rw [hx, hy]
    | framed front inner back =>
      obtain ⟨hfront, hinner, hback⟩ := hb
      refine ⟨ha.join hfront fun x y hx hy => ?_, fun w hw => (hinner w hw).imp hinfix,
        hback.imp fun part hpart => hpart.trans (List.suffix_append s t)⟩
      rw [hx]
      exact (List.prefix_append_right_inj s).mpr hy
  | framed front inner back =>
    obtain ⟨hfront, hinner, hback⟩ := ha
    cases b with
    | whole w =>
      refine ⟨hfront.imp fun part hpart => hpart.trans (List.prefix_append s t),
        fun w hw => (hinner w hw).imp hinfix', hback.join hb fun x y hx hy => ?_⟩
      obtain ⟨r, rfl⟩ := hx
      rw [hy, List.append_assoc]
      exact List.suffix_append r (x ++ t)
    | framed front' inner' back' =>
      obtain ⟨hfront', hinner', hback'⟩ := hb
      refine ⟨hfront.imp fun part hpart => hpart.trans (List.prefix_append s t), ?_,
        hback'.imp fun part hpart => hpart.trans (List.suffix_append s t)⟩
      intro w hw
      rcases List.mem_append.mp hw with hw | hw
      · exact (hinner w hw).imp hinfix'
      rcases List.mem_cons.mp hw with rfl | hw
      · -- the end of the first text and the start of the second one meet
        refine hback.join hfront' ?_
        rintro x y ⟨r, rfl⟩ ⟨r', rfl⟩
        exact ⟨r, r', by simp⟩
      · exact (hinner' w hw).imp hinfix

/-- A text of the first of two shapes. -/
theorem Allows.either_left {a : Shape} {text : List Char} (h : a.Allows text) (b : Shape) :
    (a.either b).Allows text := by
  cases a with
  | whole v =>
    cases b with
    | whole w =>
      obtain ⟨x, hx, hpart⟩ := h
      exact ⟨x, List.mem_append_left w hx, hpart⟩
    | framed front inner back => exact allows_anything text
  | framed front inner back => exact allows_anything text

/-- A text of the second of two shapes. -/
theorem Allows.either_right {b : Shape} {text : List Char} (h : b.Allows text) (a : Shape) :
    (a.either b).Allows text := by
  cases a with
  | whole v =>
    cases b with
    | whole w =>
      obtain ⟨x, hx, hpart⟩ := h
      exact ⟨x, List.mem_append_right v hx, hpart⟩
    | framed front inner back => exact allows_anything text
  | framed front inner back => exact allows_anything text

/-- A text of a shape contains a phrase of each part of the shape. -/
theorem Allows.contains {a : Shape} {text : List Char} (h : a.Allows text) {phrases : List Phrase}
    (hphrases : phrases ∈ a.parts) : Contains List.IsInfix phrases text := by
  cases a with
  | whole v =>
    obtain rfl := List.mem_singleton.mp hphrases
    exact h.imp fun part hpart => hpart ▸ List.infix_rfl
  | framed front inner back =>
    obtain ⟨hfront, hinner, hback⟩ := h
    rcases List.mem_append.mp hphrases with hphrases | hphrases
    · rcases List.mem_cons.mp hphrases with rfl | hphrases
      · exact hfront.imp fun part hpart => hpart.isInfix
      · exact hinner phrases hphrases
    · obtain rfl := List.mem_singleton.mp hphrases
      exact hback.imp fun part hpart => hpart.isInfix

end Shape

/-! ## Shapes of matches -/

/-- What a pattern tells of the texts that it takes. -/
def shape : Pattern → Shape
  | empty | look _ => .whole [[]]
  | one set => .whole [[set]]
  | seq p q => p.shape.append q.shape
  | alt p q => p.shape.either q.shape
  | group _ p => p.shape
  | span _ _ | many _ _ | copies _ _ | upTo _ _ _ => .anything

/-- A way leads forward through the text. -/
theorem Way.forward {p : Pattern} {s t : Place} (h : Way p s t) :
    ∃ used, s.rest = used ++ t.rest := by
  classical
  -- a run that accepts no other end has to take this way
  let k : Place → Option Unit := fun u => if u = t then some () else none
  have hsome : (run p k s).isSome := (run_realizes p).complete k s t h (by simp [k])
  obtain ⟨a, ha⟩ := Option.isSome_iff_exists.mp hsome
  obtain ⟨u, used, hk, hrest, -⟩ := run_advances p k s a ha
  by_cases hu : u = t
  · exact ⟨used, hu ▸ hrest⟩
  · simp [k, hu] at hk

/-- **Shapes.** What a pattern takes has its shape. -/
theorem Way.allows {p : Pattern} {s t : Place} (h : Way p s t) :
    ∃ used, s.rest = used ++ t.rest ∧ p.shape.Allows used := by
  induction p generalizing s t with
  | empty =>
    obtain rfl : t = s := h
    exact ⟨[], rfl, [], by simp, [], .nil, rfl⟩
  | one set =>
    obtain ⟨c, rest, hrest, hc, rfl⟩ := h
    exact ⟨[c], hrest, [set], by simp, [c], .cons hc .nil, rfl⟩
  | look assertion =>
    obtain ⟨-, rfl⟩ := h
    exact ⟨[], rfl, [], by simp, [], .nil, rfl⟩
  | seq p q ihp ihq =>
    obtain ⟨m, hsm, hmt⟩ := h
    obtain ⟨used, hs, hp⟩ := ihp hsm
    obtain ⟨used', hm, hq⟩ := ihq hmt
    exact ⟨used ++ used', by rw [hs, hm, List.append_assoc], hp.append hq⟩
  | alt p q ihp ihq =>
    rcases h with h | h
    · obtain ⟨used, hs, hp⟩ := ihp h
      exact ⟨used, hs, hp.either_left q.shape⟩
    · obtain ⟨used, hs, hq⟩ := ihq h
      exact ⟨used, hs, hq.either_right p.shape⟩
  | group i p ih =>
    obtain ⟨m, hsm, rfl⟩ := h
    obtain ⟨used, hs, hallows⟩ := ih hsm
    exact ⟨used, hs, hallows⟩
  | span set greedy =>
    obtain ⟨used, hs⟩ := h.forward
    exact ⟨used, hs, Shape.allows_anything used⟩
  | many p greedy =>
    obtain ⟨used, hs⟩ := h.forward
    exact ⟨used, hs, Shape.allows_anything used⟩
  | copies n p =>
    obtain ⟨used, hs⟩ := h.forward
    exact ⟨used, hs, Shape.allows_anything used⟩
  | upTo n p greedy =>
    obtain ⟨used, hs⟩ := h.forward
    exact ⟨used, hs, Shape.allows_anything used⟩

/-- A match is a part of the text that has the shape of the pattern. -/
theorem allows_of_searchFrom {p : Pattern} {before text : List Char} {found : Place}
    (h : searchFrom p before text = some found) :
    ∃ used, used <:+: text ∧ p.shape.Allows used := by
  obtain ⟨before', rest, hrest, hway⟩ := exists_way_of_searchFrom h
  obtain ⟨used, hused, hallows⟩ := hway.allows
  have htext : rest = used ++ found.rest := hused
  have hpart : used <:+: rest := htext ▸ (List.prefix_append used found.rest).isInfix
  exact ⟨used, hpart.trans hrest.isInfix, hallows⟩

/-- **Refutation.** Where none of the phrases of some part of a pattern has a place in a text, the
text holds no match. -/
theorem search_eq_none {p : Pattern} {text : List Char} {phrases : List Phrase}
    (hphrases : phrases ∈ p.shape.parts) (h : ¬ Contains List.IsInfix phrases text) :
    p.search text = none := by
  cases hsearch : p.search text with
  | none => rfl
  | some found =>
    obtain ⟨used, hused, hallows⟩ := allows_of_searchFrom hsearch
    exact absurd ((hallows.contains hphrases).imp fun part hpart => hpart.trans hused) h

end TraceScan.Pattern
