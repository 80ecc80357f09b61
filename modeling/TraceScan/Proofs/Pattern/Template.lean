import TraceScan.Proofs.Pattern.Phrases
import TraceScan.Proofs.Text.Characters

/-!
# Patterns and templates

A template describes texts by their parts: one character of a set, or any number of characters of a
set. A pattern is run over a template as an automaton is, with all places at once where its ways may
be. Sets may meet unless that can be excluded by looking at all characters of one of them, so that
the places are perhaps too many but never too few: `reach_sound`. Where no place is left, the
pattern matches no text that the template describes: `search_eq_none_of_excludes`.
-/

namespace TraceScan

/-! ## Sets that are listed -/

namespace CharSet

/-- The characters of a set, if it is written as a union of small ranges. -/
def elements? : CharSet → Option (List Char)
  | empty => some []
  | range first last =>
    if last.toNat < first.toNat + 128 then some (Text.charsBetween first last) else none
  | union s t =>
    match s.elements?, t.elements? with
    | some cs, some ds => some (cs ++ ds)
    | _, _ => none
  | _ => none

/-- Whether a set holds all characters of another one, as far as that can be seen. -/
def covers (s t : CharSet) : Bool :=
  match t.elements? with
  | some cs => cs.all s.mem
  | none => false

/-- Whether two sets may have a common character, as far as can be seen. -/
def mayMeet (s t : CharSet) : Bool :=
  match s.elements?, t.elements? with
  | some cs, _ => cs.any t.mem
  | none, some ds => ds.any s.mem
  | none, none => true

variable {s t : CharSet}

/-- Each member of a set that is listed is on the list. -/
theorem mem_elements {cs : List Char} (hs : s.elements? = some cs) {c : Char}
    (hc : s.mem c = true) : c ∈ cs := by
  induction s generalizing cs with
  | empty => cases hc
  | range first last =>
    unfold elements? at hs
    split at hs
    · simp only [mem, Bool.and_eq_true, decide_eq_true_eq] at hc
      exact Option.some.inj hs ▸ Text.mem_charsBetween hc.1 hc.2
    · cases hs
  | union s t ihs iht =>
    unfold elements? at hs
    split at hs
    · rename_i cs ds hcs hds
      obtain rfl := Option.some.inj hs
      simp only [mem, Bool.or_eq_true] at hc
      exact List.mem_append.mpr (hc.imp (ihs hcs) (iht hds))
    · cases hs
  | _ => cases hs

/-- A set that covers another one holds its members. -/
theorem mem_of_covers (h : s.covers t = true) {c : Char} (hc : t.mem c = true) :
    s.mem c = true := by
  unfold covers at h
  split at h
  · rename_i cs hcs
    exact List.all_eq_true.mp h c (mem_elements hcs hc)
  · cases h

/-- Sets with a common character may meet. -/
theorem mayMeet_of_mem {c : Char} (hs : s.mem c = true) (ht : t.mem c = true) :
    s.mayMeet t = true := by
  unfold mayMeet
  split
  · rename_i hcs
    exact List.any_eq_true.mpr ⟨c, mem_elements hcs hs, ht⟩
  · rename_i hds
    exact List.any_eq_true.mpr ⟨c, mem_elements hds ht, hs⟩
  · rfl

end CharSet

/-! ## Templates -/

/-- A part of a template. -/
inductive Part where
  /-- One character of a set. -/
  | one (set : CharSet)
  /-- Any number of characters of a set. -/
  | any (set : CharSet)

/-- A description of texts, part by part. -/
abbrev Template := List Part

/-- Whether a text has the parts of a template. -/
inductive Describes : Template → List Char → Prop
  | nil : Describes [] []
  | one {set : CharSet} {T : Template} {c : Char} {text : List Char} (hc : set.mem c = true)
      (h : Describes T text) : Describes (.one set :: T) (c :: text)
  | done {set : CharSet} {T : Template} {text : List Char} (h : Describes T text) :
      Describes (.any set :: T) text
  | more {set : CharSet} {T : Template} {c : Char} {text : List Char} (hc : set.mem c = true)
      (h : Describes (.any set :: T) text) : Describes (.any set :: T) (c :: text)

namespace Template

/-- The template of a text itself. -/
def literal (text : List Char) : Template :=
  text.map fun c => .one (.single c)

/-- A text stands before a text. -/
theorem describes_literal (s : List Char) {T : Template} {text : List Char}
    (h : Describes T text) : Describes (literal s ++ T) (s ++ text) := by
  induction s with
  | nil => exact h
  | cons c s ih => exact .one (CharSet.mem_single.mpr rfl) ih

/-- Characters of a set stand before a text. -/
theorem describes_any {set : CharSet} {s : List Char} (hs : ∀ c ∈ s, set.mem c = true)
    {T : Template} {text : List Char} (h : Describes T text) :
    Describes (.any set :: T) (s ++ text) := by
  induction s with
  | nil => exact .done h
  | cons c s ih =>
    obtain ⟨hc, hs⟩ := List.forall_mem_cons.mp hs
    exact .more hc (ih hs)

/-! ## Places -/

/-- The places behind one character of a set, from the place `i` before the parts that are left. -/
def advance (set : CharSet) : Template → Nat → List Nat
  | [], _ => []
  | .one s :: _, i => if set.mayMeet s then [i + 1] else []
  | .any s :: T, i =>
    if set.mayMeet s then i :: advance set T (i + 1) else advance set T (i + 1)

/-- The places behind any number of characters of a set, from the place `i` before the parts that
are left. -/
def pass (set : CharSet) : Template → Nat → List Nat
  | [], i => [i]
  | .one s :: T, i => i :: if set.mayMeet s then pass set T (i + 1) else []
  | .any _ :: T, i => i :: pass set T (i + 1)

/-- The places of a template where ways through a pattern may end that start at some places. What a
pattern repeats may end anywhere. -/
def reach (T : Template) : Pattern → List Nat → List Nat
  | .empty, places | .look _, places => places
  | .one set, places => (places.flatMap fun i => advance set (T.drop i) i).eraseDups
  | .span set _, places => (places.flatMap fun i => pass set (T.drop i) i).eraseDups
  | .seq p q, places => reach T q (reach T p places)
  | .alt p q, places => (reach T p places ++ reach T q places).eraseDups
  | .group _ p, places => reach T p places
  | .many _ _, places | .copies _ _, places | .upTo _ _ _, places =>
    if places.isEmpty then [] else List.range (T.length + 1)

/-- Whether a pattern has no place in a template. -/
def excludes (T : Template) (p : Pattern) : Bool :=
  (T.reach p (List.range (T.length + 1))).isEmpty

/-- Whether some of the places stands before a text. -/
def At (T : Template) (places : List Nat) (text : List Char) : Prop :=
  ∃ i ∈ places, Describes (T.drop i) text

variable {T : Template}

/-- What is left behind a part. -/
theorem drop_succ {part : Part} {rest : Template} {i : Nat} (h : T.drop i = part :: rest) :
    T.drop (i + 1) = rest := by
  rw [← List.tail_drop, h, List.tail_cons]

/-- Behind each character of a set there is a place. -/
theorem exists_mem_advance {set : CharSet} {c : Char} (hc : set.mem c = true) {rest : Template}
    {text : List Char} (h : Describes rest (c :: text)) {i : Nat} (hi : T.drop i = rest) :
    T.At (advance set rest i) text := by
  generalize hwhole : c :: text = whole at h
  induction h generalizing i with
  | nil => cases hwhole
  | one hd h _ =>
    obtain ⟨rfl, rfl⟩ := List.cons.inj hwhole
    refine ⟨i + 1, ?_, drop_succ hi ▸ h⟩
    rw [advance, if_pos (CharSet.mayMeet_of_mem hc hd)]
    exact List.mem_singleton_self _
  | done h ih =>
    obtain ⟨j, hj, hdescribes⟩ := ih (drop_succ hi) hwhole
    refine ⟨j, ?_, hdescribes⟩
    rw [advance]
    split
    · exact List.mem_cons_of_mem i hj
    · exact hj
  | more hd h _ =>
    obtain ⟨rfl, rfl⟩ := List.cons.inj hwhole
    refine ⟨i, ?_, hi ▸ h⟩
    rw [advance, if_pos (CharSet.mayMeet_of_mem hc hd)]
    exact List.mem_cons_self

/-- Behind any number of characters of a set there is a place. -/
theorem exists_mem_pass {set : CharSet} {used text : List Char}
    (hused : ∀ c ∈ used, set.mem c = true) {rest : Template} (h : Describes rest (used ++ text))
    {i : Nat} (hi : T.drop i = rest) : T.At (pass set rest i) text := by
  generalize hwhole : used ++ text = whole at h
  induction h generalizing i used with
  | nil =>
    obtain ⟨rfl, rfl⟩ := List.append_eq_nil_iff.mp hwhole
    exact ⟨i, List.mem_singleton_self i, hi ▸ .nil⟩
  | @one s rest d whole hd h ih =>
    cases used with
    | nil =>
      refine ⟨i, List.mem_cons_self, ?_⟩
      rw [hi, show text = d :: whole from hwhole]
      exact .one hd h
    | cons c used =>
      obtain ⟨hc, hused⟩ := List.forall_mem_cons.mp hused
      obtain ⟨rfl, hrest⟩ := List.cons.inj hwhole
      obtain ⟨j, hj, hdescribes⟩ := ih hused (drop_succ hi) hrest
      refine ⟨j, ?_, hdescribes⟩
      rw [pass, if_pos (CharSet.mayMeet_of_mem hc hd)]
      exact List.mem_cons_of_mem i hj
  | done h ih =>
    obtain ⟨j, hj, hdescribes⟩ := ih hused (drop_succ hi) hwhole
    exact ⟨j, List.mem_cons_of_mem i hj, hdescribes⟩
  | @more s rest d whole hd h ih =>
    cases used with
    | nil =>
      refine ⟨i, List.mem_cons_self, ?_⟩
      rw [hi, show text = d :: whole from hwhole]
      exact .more hd h
    | cons c used =>
      obtain ⟨-, hrest⟩ := List.cons.inj hwhole
      exact ih (List.forall_mem_cons.mp hused).2 hi hrest

/-- Where a part is left, the place is before the end. -/
theorem lt_length_of_drop {part : Part} {rest : Template} {i : Nat} (h : T.drop i = part :: rest) :
    i < T.length := by
  by_contra hlong
  rw [List.drop_of_length_le (Nat.le_of_not_lt hlong)] at h
  cases h

/-- Before each end of a text that stands behind a place there is a place again. -/
theorem At.suffix {places : List Nat} {text rest : List Char} (h : T.At places text)
    (hrest : rest <:+ text) : T.At (List.range (T.length + 1)) rest := by
  obtain ⟨i, -, h⟩ := h
  generalize hi : T.drop i = left at h
  have hhere : ∀ {j : Nat}, j < T.length → j ∈ List.range (T.length + 1) := fun hj =>
    List.mem_range.mpr (Nat.lt_succ_of_lt hj)
  induction h generalizing i with
  | nil =>
    refine ⟨T.length, List.mem_range.mpr (Nat.lt_succ_self _), ?_⟩
    rw [List.suffix_nil.mp hrest, List.drop_length]
    exact .nil
  | one hc h ih =>
    rcases List.suffix_cons_iff.mp hrest with rfl | hrest
    · exact ⟨i, hhere (lt_length_of_drop hi), hi ▸ .one hc h⟩
    · exact ih hrest (i + 1) (drop_succ hi)
  | done h ih => exact ih hrest (i + 1) (drop_succ hi)
  | more hc h ih =>
    rcases List.suffix_cons_iff.mp hrest with rfl | hrest
    · exact ⟨i, hhere (lt_length_of_drop hi), hi ▸ .more hc h⟩
    · exact ih hrest i hi

/-- A way that is not followed ends at some place. -/
theorem At.forward {places : List Nat} {s t : Place} (h : T.At places s.rest)
    (hforward : ∃ used, s.rest = used ++ t.rest) :
    T.At (if places.isEmpty then [] else List.range (T.length + 1)) t.rest := by
  obtain ⟨used, hused⟩ := hforward
  have hplaces : ¬ places.isEmpty = true := by
    obtain ⟨i, hi, -⟩ := h
    rw [List.isEmpty_iff]
    exact List.ne_nil_of_mem hi
  rw [if_neg hplaces]
  exact h.suffix ⟨used, hused.symm⟩

/-- **Reach.** Where a way through a pattern starts at one of some places, it ends at one of those
that the pattern reaches from them. -/
theorem reach_sound {p : Pattern} {s t : Place} (h : Pattern.Way p s t) {places : List Nat}
    (hs : T.At places s.rest) : T.At (T.reach p places) t.rest := by
  induction p generalizing s t places with
  | empty =>
    obtain rfl : t = s := h
    exact hs
  | one set =>
    obtain ⟨c, rest, hrest, hc, rfl⟩ := h
    obtain ⟨i, hi, hdescribes⟩ := hs
    rw [hrest] at hdescribes
    obtain ⟨j, hj, hdone⟩ := exists_mem_advance hc hdescribes rfl
    exact ⟨j, List.mem_eraseDups.mpr (List.mem_flatMap.mpr ⟨i, hi, hj⟩), hdone⟩
  | span set greedy =>
    obtain ⟨used, rest, hrest, hused, rfl⟩ := h
    obtain ⟨i, hi, hdescribes⟩ := hs
    rw [hrest] at hdescribes
    obtain ⟨j, hj, hdone⟩ := exists_mem_pass hused hdescribes rfl
    exact ⟨j, List.mem_eraseDups.mpr (List.mem_flatMap.mpr ⟨i, hi, hj⟩), hdone⟩
  | look assertion =>
    obtain ⟨-, rfl⟩ := h
    exact hs
  | seq p q ihp ihq =>
    obtain ⟨m, hsm, hmt⟩ := h
    exact ihq hmt (ihp hsm hs)
  | alt p q ihp ihq =>
    rcases h with h | h
    · obtain ⟨j, hj, hdone⟩ := ihp h hs
      exact ⟨j, List.mem_eraseDups.mpr (List.mem_append_left _ hj), hdone⟩
    · obtain ⟨j, hj, hdone⟩ := ihq h hs
      exact ⟨j, List.mem_eraseDups.mpr (List.mem_append_right _ hj), hdone⟩
  | group i p ih =>
    obtain ⟨m, hsm, rfl⟩ := h
    exact ih hsm hs
  | many p greedy => exact hs.forward h.forward
  | copies n p => exact hs.forward h.forward
  | upTo n p greedy => exact hs.forward h.forward

/-- **Exclusion.** A pattern that has no place in a template matches no text that the template
describes. -/
theorem search_eq_none_of_excludes {p : Pattern} (hp : T.excludes p = true) {text : List Char}
    (h : Describes T text) : p.search text = none := by
  cases hsearch : p.search text with
  | none => rfl
  | some found =>
    obtain ⟨before, rest, hrest, hway⟩ := Pattern.exists_way_of_searchFrom hsearch
    have hstart : T.At [0] text := ⟨0, List.mem_singleton_self 0, h⟩
    obtain ⟨j, hj, -⟩ := reach_sound hway (hstart.suffix hrest)
    rw [List.isEmpty_iff.mp hp] at hj
    cases hj

end Template

end TraceScan
