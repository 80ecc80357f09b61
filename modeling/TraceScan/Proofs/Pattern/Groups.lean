import TraceScan.Proofs.Pattern.Ways

/-!
# What groups hold

A search knows a place of the text by what lies behind it, and a group by what lies behind its ends.
So a place is one of a text if an end of the text lies behind it. Every way through a pattern leads
from places of a text to places of the same text (`Way.within`), and what a group of a match holds
is therefore a part of the text: `infix_of_group?`.
-/

namespace TraceScan

/-! ## Places of a text -/

/-- Whether a place is one of a text, and all groups read on the way start at such places. -/
structure Place.Within (s : Place) (text : List Char) : Prop where
  rest : s.rest <:+ text
  groups : ∀ g ∈ s.groups, g.2.start <:+ text

/-- What lies between two places is a part of what lies behind the first one. -/
theorem Extent.text_prefix (e : Extent) : e.text <+: e.start :=
  List.take_prefix _ _

/-- A group that starts in a text is a part of it. -/
theorem Place.Within.infix_of_group? {s : Place} {text part : List Char} (h : s.Within text)
    {index : Nat} (hpart : s.group? index = some part) : part <:+: text := by
  obtain ⟨extent, hlookup, rfl⟩ := Option.map_eq_some_iff.mp hpart
  have hmem : (index, extent) ∈ s.groups := by
    obtain ⟨before, behind, hgroups, -⟩ := List.lookup_eq_some_iff.mp hlookup
    rw [hgroups]
    exact List.mem_append_right before List.mem_cons_self
  exact extent.text_prefix.isInfix.trans (h.groups _ hmem).isInfix

namespace Pattern

open Relation (ReflTransGen)

/-! ## Ways in a text -/

/-- Whether the steps of a relation lead from places of a text to places of it. -/
def StaysIn (text : List Char) (step : Place → Place → Prop) : Prop :=
  ∀ s t, step s t → s.Within text → t.Within text

section Steps

variable {text : List Char} {step : Place → Place → Prop}

/-- A number of steps stays in a text if each of them does. -/
theorem StaysIn.rounds (h : StaysIn text step) (n : Nat) : StaysIn text (Rounds step n) := by
  induction n with
  | zero =>
    rintro s t rfl hs
    exact hs
  | succ n ih =>
    rintro s t ⟨m, hsm, hmt⟩ hs
    exact ih m t hmt (h s m hsm hs)

/-- Any number of steps stays in a text if each of them does. -/
theorem StaysIn.reflTransGen (h : StaysIn text step) :
    StaysIn text (ReflTransGen (Taking step)) := by
  intro s t hst hs
  induction hst with
  | refl => exact hs
  | tail _ hlast ih => exact h _ _ hlast.1 ih

end Steps

/-- **Ways.** Every way through a pattern that starts in a text stays in it. -/
theorem Way.within (p : Pattern) (text : List Char) : StaysIn text (Way p) := by
  induction p with
  | empty =>
    rintro s t rfl hs
    exact hs
  | one set =>
    rintro s t ⟨c, rest, hrest, -, rfl⟩ hs
    have hbehind : rest <:+ s.rest := hrest ▸ List.suffix_cons c rest
    exact ⟨hbehind.trans hs.rest, hs.groups⟩
  | span set greedy =>
    rintro s t ⟨used, rest, hrest, -, rfl⟩ hs
    have hbehind : rest <:+ s.rest := hrest ▸ List.suffix_append used rest
    exact ⟨hbehind.trans hs.rest, hs.groups⟩
  | look assertion =>
    rintro s t ⟨-, rfl⟩ hs
    exact hs
  | seq p q ihp ihq =>
    rintro s t ⟨m, hsm, hmt⟩ hs
    exact ihq m t hmt (ihp s m hsm hs)
  | alt p q ihp ihq =>
    rintro s t (hst | hst) hs
    · exact ihp s t hst hs
    · exact ihq s t hst hs
  | group i p ih =>
    rintro s t ⟨m, hsm, rfl⟩ hs
    have hm := ih s m hsm hs
    exact ⟨hm.rest, List.forall_mem_cons.mpr ⟨hs.rest, hm.groups⟩⟩
  | many p greedy ih =>
    rintro s t ⟨m, hsm, hmt⟩ hs
    have hm := ih s m hsm hs
    split at hmt
    · exact StaysIn.reflTransGen ih m t hmt hm
    · rwa [hmt]
  | copies n p ih => exact StaysIn.rounds ih n
  | upTo n p greedy ih =>
    rintro s t ⟨m, -, hst⟩ hs
    exact StaysIn.rounds ih m s t hst hs

/-! ## Matches -/

/-- **Groups.** What a group of a match holds is a part of the text. -/
theorem infix_of_group? {p : Pattern} {text part : List Char} {found : Place}
    (h : p.find text = some found) {index : Nat} (hpart : found.group? index = some part) :
    part <:+: text := by
  rw [find_eq_search] at h
  obtain ⟨before, rest, hrest, hway⟩ := exists_way_of_searchFrom h
  have hstart : Place.Within ⟨before, rest, []⟩ text := ⟨hrest, by simp⟩
  exact (Way.within p text _ _ hway hstart).infix_of_group? hpart

end Pattern

end TraceScan
