import TraceScan.Proofs.Pattern.Phrases
import TraceScan.Proofs.Text.Numerals

/-!
# Bare diagnostics

A bare diagnostic is a path, a line number and perhaps a column number, with colons between them and
nothing around them. For a path of a given ending but otherwise of arbitrary characters, the module
tells from a pattern alone, by two checks that can be evaluated, that it matches no bare diagnostic
(`refutes`) or that it takes each one apart as it should (`locates`). That the checks are right is
`search_eq_none_of_refutes` and `search_eq_some_of_locates`.
-/

namespace TraceScan

open Text (IsDigits plainDigits mem_plainDigits isDigit_of_isPlainDigit)

/-! ## Texts -/

/-- Whether a character may stand in the path of a bare diagnostic. -/
def isPathChar (c : Char) : Bool :=
  !Text.isBlank c &&
    !([':', '(', ')', '\'', '"', '[', ']', '\x7b', '\x7d', '#', '<', '>'].contains c)

/-- What stands behind the line number. -/
def behindLine : Option (List Char) → List Char
  | none => []
  | some column => ':' :: column

/-- The text of a bare diagnostic. -/
def bareText (path line : List Char) (column : Option (List Char)) : List Char :=
  path ++ ':' :: (line ++ behindLine column)

/-- Whether a path with the given ending and some numbers make a bare diagnostic. -/
structure IsBare (ending path line : List Char) (column : Option (List Char)) : Prop where
  stem : ∃ stem, stem ≠ [] ∧ path = stem ++ '.' :: ending
  path : ∀ c ∈ path, isPathChar c = true
  line : IsDigits line
  column : ∀ ds ∈ column, IsDigits ds

/-- Digits may stand in a path. -/
theorem isPathChar_of_isPlainDigit {c : Char} (h : Text.isPlainDigit c = true) :
    isPathChar c = true := by
  have hall : plainDigits.all isPathChar = true := by decide
  exact List.all_eq_true.mp hall c (mem_plainDigits h)

/-- No colon may stand in a path. -/
theorem ne_colon_of_isPathChar {c : Char} (h : isPathChar c = true) : c ≠ ':' := by
  rintro rfl
  revert h
  decide

/-- No blank may stand in a path. -/
theorem isBlank_of_isPathChar {c : Char} (h : isPathChar c = true) : Text.isBlank c = false := by
  simp only [isPathChar, Bool.and_eq_true, Bool.not_eq_true'] at h
  exact h.1

/-- There is no colon among digits. -/
theorem Text.IsDigits.colon_not_mem {ds : List Char} (h : IsDigits ds) : ':' ∉ ds := fun hmem =>
  ne_colon_of_isPathChar (isPathChar_of_isPlainDigit (h.2 ':' hmem)) rfl

/-- A text that is cut before some character is cut before the first one, or behind that. -/
theorem append_cut_cases {cut : Char} {first rest a b : List Char} (hfirst : cut ∉ first)
    (h : first ++ cut :: rest = a ++ cut :: b) :
    (a = first ∧ b = rest) ∨ ∃ a', a = first ++ cut :: a' ∧ a' ++ cut :: b = rest := by
  rcases List.append_eq_append_iff.mp h with ⟨more, rfl, hmore⟩ | ⟨more, rfl, hmore⟩
  · cases more with
    | nil => exact Or.inl ⟨by simp, by simpa using hmore.symm⟩
    | cons c more =>
      obtain ⟨rfl, hrest⟩ := List.cons.inj hmore
      exact Or.inr ⟨more, rfl, hrest.symm⟩
  · cases more with
    | nil => exact Or.inl ⟨by simp, by simpa using hmore⟩
    | cons c more =>
      obtain ⟨rfl, -⟩ := List.cons.inj hmore
      exact absurd (by simp) hfirst

namespace IsBare

variable {ending path line : List Char} {column : Option (List Char)}

/-- There is no colon in the path. -/
theorem colon_not_mem_path (h : IsBare ending path line column) : ':' ∉ path := fun hmem =>
  ne_colon_of_isPathChar (h.path ':' hmem) rfl

/-- The characters of a bare diagnostic are those of paths and colons. -/
theorem isPathChar_or_colon (h : IsBare ending path line column) {c : Char}
    (hc : c ∈ bareText path line column) : isPathChar c = true ∨ c = ':' := by
  have hdigits : ∀ {ds : List Char}, IsDigits ds → c ∈ ds → isPathChar c = true := fun hds hmem =>
    isPathChar_of_isPlainDigit (hds.2 c hmem)
  rcases List.mem_append.mp hc with hc | hc
  · exact Or.inl (h.path c hc)
  rcases List.mem_cons.mp hc with hc | hc
  · exact Or.inr hc
  rcases List.mem_append.mp hc with hc | hc
  · exact Or.inl (hdigits h.line hc)
  cases column with
  | none => cases hc
  | some ds =>
    rcases List.mem_cons.mp hc with hc | hc
    · exact Or.inr hc
    · exact Or.inl (hdigits (h.column ds rfl) hc)

/-- Before a colon there is the path, or the path with the line number. -/
theorem eq_of_append_colon (h : IsBare ending path line column) {a b : List Char}
    (hab : a ++ ':' :: b = bareText path line column) : a = path ∨ a = path ++ ':' :: line := by
  rcases append_cut_cases h.colon_not_mem_path hab.symm with ⟨ha, -⟩ | ⟨a', rfl, hrest⟩
  · exact Or.inl ha
  have hline := h.line.colon_not_mem
  cases column with
  | none =>
    rw [behindLine, List.append_nil] at hrest
    exact absurd (hrest ▸ by simp) hline
  | some ds =>
    rcases append_cut_cases hline hrest.symm with ⟨rfl, -⟩ | ⟨a'', -, hcolumn⟩
    · exact Or.inr rfl
    · exact absurd (hcolumn ▸ by simp) (h.column ds rfl).colon_not_mem

end IsBare

/-! ## Sets -/

namespace CharSet

/-- Whether a set holds the colon only. -/
def isColon : CharSet → Bool
  | range first last => first == ':' && last == ':'
  | _ => false

/-- Whether a set holds no character of paths, as far as that can be seen. -/
def isBarred : CharSet → Bool
  | empty | blank => true
  | range first last => first == last && !isPathChar first
  | union s t => s.isBarred && t.isBarred
  | _ => false

/-- Whether a set holds all characters of paths, as far as that can be seen. -/
def admitsPaths : CharSet → Bool
  | compl s => s.isBarred
  | _ => false

/-- The colon is the only member. -/
theorem mem_iff_of_isColon {s : CharSet} (h : s.isColon = true) {c : Char} :
    s.mem c = true ↔ c = ':' := by
  cases s with
  | range first last =>
    simp only [isColon, Bool.and_eq_true, beq_iff_eq] at h
    rw [h.1, h.2]
    exact mem_single
  | _ => cases h

/-- No character of paths is a member. -/
theorem isPathChar_eq_false_of_mem {s : CharSet} (h : s.isBarred = true) {c : Char}
    (hc : s.mem c = true) : isPathChar c = false := by
  induction s with
  | empty => cases hc
  | blank => simp [isPathChar, show Text.isBlank c = true from hc]
  | range first last =>
    simp only [isBarred, Bool.and_eq_true, beq_iff_eq, Bool.not_eq_true'] at h
    obtain ⟨rfl, hfirst⟩ := h
    obtain rfl : c = first := mem_single.mp hc
    exact hfirst
  | union s t ihs iht =>
    simp only [isBarred, Bool.and_eq_true] at h
    simp only [mem, Bool.or_eq_true] at hc
    exact hc.elim (ihs h.1) (iht h.2)
  | _ => cases h

/-- Each character of paths is a member. -/
theorem mem_of_isPathChar {s : CharSet} (h : s.admitsPaths = true) {c : Char}
    (hc : isPathChar c = true) : s.mem c = true := by
  cases s with
  | compl s =>
    have hbarred : s.isBarred = true := h
    cases hmem : s.mem c with
    | false => simp [mem, hmem]
    | true =>
      rw [isPathChar_eq_false_of_mem hbarred hmem] at hc
      cases hc
  | _ => cases h

end CharSet

namespace Pattern

variable {ending path line : List Char} {column : Option (List Char)}

/-! ## Patterns that do not match -/

/-- Whether a phrase does not fit the end of a text, compared from the end. -/
def clashes (w : Phrase) (text : List Char) : Bool :=
  (w.reverse.zip text.reverse).any fun pair => !pair.1.mem pair.2

/-- Whether no part of a bare diagnostic fits a phrase: it asks for a character that there is not,
or it asks for a colon and before it for what is neither the end of the path nor a digit. -/
def isAbsent (ending : List Char) (w : Phrase) : Bool :=
  w.any (fun set => set.isBarred && !set.mem ':') ||
    let front := w.takeWhile (!·.isColon)
    w.any CharSet.isColon && clashes front ('.' :: ending) &&
      plainDigits.all fun d => clashes front [d]

/-- Whether a pattern matches no bare diagnostic whose path has the given ending. -/
def refutes (ending : List Char) (p : Pattern) : Bool :=
  p.shape.parts.any fun phrases => phrases.all (isAbsent ending)

/-- A phrase that fits the end of a text does not clash with it. -/
theorem clashes_eq_false {w : Phrase} {part front text : List Char} (hfits : Fits w part)
    (hpart : part <:+ front ++ text) : clashes w text = false := by
  have hzip : ∀ {w : Phrase} {part text : List Char} (rest : List Char), Fits w part →
      part <+: text ++ rest → (w.zip text).any (fun pair => !pair.1.mem pair.2) = false := by
    intro w part text rest hfits
    induction hfits generalizing text with
    | nil => simp
    | @cons set c w part hc _ ih =>
      intro hpart
      cases text with
      | nil => rfl
      | cons d text =>
        obtain ⟨rfl, hrest⟩ := List.cons_prefix_cons.mp hpart
        rw [List.zip_cons_cons, List.any_cons, ih hrest, hc]
        rfl
  refine hzip front.reverse (List.rel_reverse hfits) ?_
  rw [← List.reverse_append]
  exact List.reverse_prefix.mpr hpart

/-- A phrase with a colon fits a text with a colon, and the text before it fits what stands before
the first colon of the phrase. -/
theorem Fits.exists_colon {w : Phrase} {part : List Char} (hfits : Fits w part)
    (hcolon : w.any CharSet.isColon = true) :
    ∃ before behind, part = before ++ ':' :: behind ∧ Fits (w.takeWhile (!·.isColon)) before := by
  induction hfits with
  | nil => cases hcolon
  | @cons set c w part hc hfits ih =>
    cases hset : set.isColon with
    | true =>
      obtain rfl := (CharSet.mem_iff_of_isColon hset).mp hc
      refine ⟨[], part, rfl, ?_⟩
      rw [List.takeWhile_cons_of_neg (by simp [hset])]
      exact .nil
    | false =>
      obtain ⟨before, behind, rfl, hbefore⟩ := ih (by simpa [hset] using hcolon)
      refine ⟨c :: before, behind, rfl, ?_⟩
      rw [List.takeWhile_cons_of_pos (by simp [hset])]
      exact .cons hc hbefore

/-- Each set of a phrase holds a character of a text that fits the phrase. -/
theorem Fits.exists_mem {w : Phrase} {part : List Char} (hfits : Fits w part) {set : CharSet}
    (hset : set ∈ w) : ∃ c ∈ part, set.mem c = true := by
  obtain ⟨i, hi, rfl⟩ := List.getElem_of_mem hset
  have hi' : i < part.length := hfits.length_eq ▸ hi
  exact ⟨part[i], List.getElem_mem hi', List.Forall₂.get hfits hi hi'⟩

/-- A phrase that clashes with the path and with all digits fits the end of neither the path nor the
line number, whatever stands before them. -/
theorem not_suffix_of_clashes (h : IsBare ending path line column) {w : Phrase}
    (hend : clashes w ('.' :: ending) = true)
    (hdigit : (plainDigits.all fun d => clashes w [d]) = true) {part : List Char}
    (hfits : Fits w part) (lead : List Char) :
    ¬ part <:+ lead ++ path ∧ ¬ part <:+ lead ++ (path ++ ':' :: line) := by
  constructor
  · intro hpart
    obtain ⟨stem, -, hstem⟩ := h.stem
    rw [hstem, ← List.append_assoc] at hpart
    rw [clashes_eq_false hfits hpart] at hend
    cases hend
  · -- the number ends in a digit
    intro hpart
    obtain ⟨hne, hdigits⟩ := h.line
    have hlast : Text.isPlainDigit (line.getLast hne) = true := hdigits _ (List.getLast_mem hne)
    have hsplit : lead ++ (path ++ ':' :: line) =
        (lead ++ (path ++ ':' :: line.dropLast)) ++ [line.getLast hne] := by
      rw [List.append_assoc, List.append_assoc, List.cons_append, List.dropLast_append_getLast]
    rw [hsplit] at hpart
    have hclash := List.all_eq_true.mp hdigit _ (mem_plainDigits hlast)
    rw [clashes_eq_false hfits hpart] at hclash
    cases hclash

/-- Behind a phrase that clashes with the path and with all digits there is no colon. -/
theorem append_colon_ne (h : IsBare ending path line column) {w : Phrase}
    (hend : clashes w ('.' :: ending) = true)
    (hdigit : (plainDigits.all fun d => clashes w [d]) = true) {left before behind : List Char}
    (hfits : Fits w before) :
    (left ++ before) ++ ':' :: behind ≠ bareText path line column := by
  intro hcut
  obtain ⟨hpath, hline⟩ := not_suffix_of_clashes h hend hdigit hfits []
  rcases h.eq_of_append_colon hcut with heq | heq
  · exact hpath ⟨left, heq⟩
  · exact hline ⟨left, heq⟩

/-- No part of a bare diagnostic fits a phrase that is absent. -/
theorem not_infix_of_isAbsent (h : IsBare ending path line column) {w : Phrase}
    (hw : isAbsent ending w = true) {part : List Char} (hfits : Fits w part) :
    ¬ part <:+: bareText path line column := by
  intro hpart
  simp only [isAbsent, Bool.or_eq_true, Bool.and_eq_true] at hw
  rcases hw with hbarred | ⟨⟨hcolon, hend⟩, hdigit⟩
  · obtain ⟨set, hset, hbarred⟩ := List.any_eq_true.mp hbarred
    simp only [Bool.and_eq_true, Bool.not_eq_true'] at hbarred
    obtain ⟨c, hc, hmem⟩ := hfits.exists_mem hset
    rcases h.isPathChar_or_colon (hpart.subset hc) with hpath | rfl
    · rw [CharSet.isPathChar_eq_false_of_mem hbarred.1 hmem] at hpath
      cases hpath
    · rw [hbarred.2] at hmem
      cases hmem
  · obtain ⟨before, behind, rfl, hfront⟩ := hfits.exists_colon hcolon
    obtain ⟨left, right, htext⟩ := hpart
    have hcut : (left ++ before) ++ ':' :: (behind ++ right) = bareText path line column := by
      rw [← htext]
      simp
    exact append_colon_ne h hend hdigit hfront hcut

/-- **No match.** A pattern that is refuted for an ending matches no bare diagnostic with it. -/
theorem search_eq_none_of_refutes {p : Pattern} (hp : p.refutes ending = true)
    (h : IsBare ending path line column) : p.search (bareText path line column) = none := by
  obtain ⟨phrases, hphrases, habsent⟩ := List.any_eq_true.mp hp
  refine search_eq_none hphrases ?_
  rintro ⟨w, hw, part, hfits, hpart⟩
  exact not_infix_of_isAbsent h (List.all_eq_true.mp habsent w hw) hfits hpart

/-! ## Patterns that match -/

/-- Whether a pattern is made of characters, spans and choices, and never takes `c`. -/
def avoids (c : Char) : Pattern → Bool
  | empty => true
  | one set | span set _ => !set.mem c
  | seq p q | alt p q => p.avoids c && q.avoids c
  | _ => false

/-- Whether a pattern takes a text as a whole. -/
def takes (text : List Char) (p : Pattern) : Bool :=
  (p.run (fun t => if t.rest.isEmpty then some () else none) ⟨[], text, []⟩).isSome

/-- Whether a pattern takes one or more characters of paths and then the ending. -/
def takesStem (ending : List Char) : Pattern → Bool
  | seq (seq (one s) (span t true)) p =>
    s.admitsPaths && t.admitsPaths && p.takes ('.' :: ending)
  | _ => false

/-- Whether a pattern takes paths with the given ending, perhaps behind a drive. -/
def takesPath (ending : List Char) : Pattern → Bool
  | seq (alt (seq (one _) (one s)) empty) p =>
    s.isColon && p.avoids ':' && p.takesStem ending
  | p => p.avoids ':' && p.takesStem ending

/-- Whether a pattern takes numbers, as many digits as there are. -/
def takesNumber : Pattern → Bool
  | seq (one .digit) (span .digit true) => true
  | _ => false

/-- Whether a pattern takes a colon and a column number, if they are there. -/
def takesColumn : Pattern → Bool
  | alt (seq (one s) (group 3 p)) empty => s.isColon && p.takesNumber
  | _ => false

/-- Whether a pattern takes what follows a line number: the column, and perhaps a text behind it
that starts with a colon. -/
def takesTail : Pattern → Bool
  | seq p (alt (seq (one s) _) empty) => p.takesColumn && s.isColon
  | p => p.takesColumn

/-- Whether a pattern takes a bare diagnostic apart: the path goes to the first group, the line
number to the second one and the column number to the third one. -/
def locates (ending : List Char) : Pattern → Bool
  | seq (group 1 p) (seq (one s) (seq (group 2 number) tail)) =>
    p.takesPath ending && s.isColon && number.takesNumber && tail.takesTail
  | _ => false

variable {α : Type} {k : Place → Option α}

/-- Whether a pattern takes a text wherever it stands. -/
def Takes (p : Pattern) (text : List Char) : Prop :=
  ∀ before rest groups,
    Way p ⟨before, text ++ rest, groups⟩ ⟨text.reverse ++ before, rest, groups⟩

/-- Two texts are taken one after the other. -/
theorem Takes.seq {p q : Pattern} {s t : List Char} (hp : p.Takes s) (hq : q.Takes t) :
    (seq p q).Takes (s ++ t) := by
  intro before rest groups
  refine ⟨⟨s.reverse ++ before, t ++ rest, groups⟩, ?_, ?_⟩
  · rw [List.append_assoc]
    exact hp before (t ++ rest) groups
  · rw [List.reverse_append, List.append_assoc]
    exact hq (s.reverse ++ before) rest groups

/-- One or more characters of two sets are taken. -/
theorem Takes.repeated {s t : CharSet} {text : List Char} (hne : text ≠ [])
    (hs : ∀ c ∈ text, s.mem c = true) (ht : ∀ c ∈ text, t.mem c = true) :
    (Pattern.seq (one s) (span t true)).Takes text := by
  obtain ⟨c, text, rfl⟩ := List.exists_cons_of_ne_nil hne
  obtain ⟨-, ht⟩ := List.forall_mem_cons.mp ht
  intro before rest groups
  refine ⟨⟨c :: before, text ++ rest, groups⟩, ?_, ?_⟩
  · exact ⟨c, _, rfl, hs c List.mem_cons_self, rfl⟩
  · exact ⟨text, rest, rfl, ht, by simp⟩

/-- What a pattern takes that avoids a character holds none, and it is taken everywhere. -/
theorem Way.of_avoids {c : Char} {p : Pattern} (hp : p.avoids c = true) {s t : Place}
    (h : Way p s t) :
    ∃ used rest, s.rest = used ++ rest ∧ t = ⟨used.reverse ++ s.before, rest, s.groups⟩ ∧
      c ∉ used ∧ p.Takes used := by
  induction p generalizing s t with
  | empty =>
    obtain rfl : t = s := h
    exact ⟨[], t.rest, rfl, rfl, by simp, fun _ _ _ => rfl⟩
  | one set =>
    obtain ⟨d, rest, hrest, hd, rfl⟩ := h
    have hset : set.mem c = false := by simpa [avoids] using hp
    refine ⟨[d], rest, hrest, rfl, ?_, fun _ rest _ => ⟨d, rest, rfl, hd, rfl⟩⟩
    rintro hmem
    obtain rfl := List.mem_singleton.mp hmem
    rw [hset] at hd
    cases hd
  | span set greedy =>
    obtain ⟨used, rest, hrest, hused, rfl⟩ := h
    have hset : set.mem c = false := by simpa [avoids] using hp
    refine ⟨used, rest, hrest, rfl, ?_, fun _ rest _ => ⟨used, rest, rfl, hused, rfl⟩⟩
    intro hmem
    have hc := hused c hmem
    rw [hset] at hc
    cases hc
  | seq p q ihp ihq =>
    simp only [avoids, Bool.and_eq_true] at hp
    obtain ⟨m, hsm, hmt⟩ := h
    obtain ⟨used, rest, hrest, rfl, hused, htakes⟩ := ihp hp.1 hsm
    obtain ⟨used', rest', hrest', rfl, hused', htakes'⟩ := ihq hp.2 hmt
    refine ⟨used ++ used', rest', ?_, by simp, by simp [hused, hused'], htakes.seq htakes'⟩
    rw [hrest, show rest = used' ++ rest' from hrest', List.append_assoc]
  | alt p q ihp ihq =>
    simp only [avoids, Bool.and_eq_true] at hp
    rcases h with h | h
    · obtain ⟨used, rest, hrest, ht, hused, htakes⟩ := ihp hp.1 h
      exact ⟨used, rest, hrest, ht, hused, fun b r g => Or.inl (htakes b r g)⟩
    · obtain ⟨used, rest, hrest, ht, hused, htakes⟩ := ihq hp.2 h
      exact ⟨used, rest, hrest, ht, hused, fun b r g => Or.inr (htakes b r g)⟩
  | _ => cases hp

/-- A text that is taken as a whole is taken wherever it stands. -/
theorem Takes.of_takes {c : Char} {p : Pattern} (hp : p.avoids c = true) {text : List Char}
    (h : p.takes text = true) : p.Takes text := by
  obtain ⟨a, ha⟩ := Option.isSome_iff_exists.mp h
  obtain ⟨t, hway, hk⟩ := (run_realizes p).sound _ _ _ ha
  obtain ⟨used, rest, hrest, rfl, -, htakes⟩ := hway.of_avoids hp
  have hnil : rest = [] := by
    by_contra hne
    simp [hne] at hk
  obtain rfl : text = used := by simpa [hnil] using hrest
  exact htakes

/-- One or more characters of paths and then the ending are taken wherever they stand. -/
theorem Takes.of_takesStem {p : Pattern} (hp : p.avoids ':' = true)
    (h : p.takesStem ending = true) {stem : List Char} (hne : stem ≠ [])
    (hstem : ∀ c ∈ stem, isPathChar c = true) : p.Takes (stem ++ '.' :: ending) := by
  unfold takesStem at h
  split at h
  · rename_i s t q
    simp only [avoids, Bool.and_eq_true] at hp
    simp only [Bool.and_eq_true] at h
    refine (Takes.repeated hne (fun c hc => ?_) fun c hc => ?_).seq (Takes.of_takes hp.2 h.2)
    · exact CharSet.mem_of_isPathChar h.1.1 (hstem c hc)
    · exact CharSet.mem_of_isPathChar h.1.2 (hstem c hc)
  · cases h

/-- A way that takes no character of some kind and ends before one ends before the first one. -/
theorem Way.eq_of_avoids {c : Char} {p : Pattern} (hp : p.avoids c = true) {text : List Char}
    (htext : c ∉ text) {before rest : List Char} {groups : List (Nat × Extent)} {t : Place}
    (h : Way p ⟨before, text ++ c :: rest, groups⟩ t) (ht : t.rest.head? = some c) :
    t = ⟨text.reverse ++ before, c :: rest, groups⟩ := by
  obtain ⟨used, behind, hrest, rfl, hused, -⟩ := h.of_avoids hp
  obtain ⟨behind, rfl⟩ : ∃ r, behind = c :: r := List.head?_eq_some_iff.mp ht
  rcases append_cut_cases htext hrest with ⟨rfl, rfl⟩ | ⟨a, rfl, -⟩
  · rfl
  · exact absurd (by simp) hused

/-- Such a pattern takes the path of a bare diagnostic, and no other way through it ends before a
colon. -/
theorem way_takesStem {p : Pattern} (havoids : p.avoids ':' = true)
    (hstem : p.takesStem ending = true) (h : IsBare ending path line column)
    (before rest : List Char) (groups : List (Nat × Extent)) :
    Way p ⟨before, path ++ ':' :: rest, groups⟩ ⟨path.reverse ++ before, ':' :: rest, groups⟩ ∧
      ∀ t, Way p ⟨before, path ++ ':' :: rest, groups⟩ t → t.rest.head? = some ':' →
        t = ⟨path.reverse ++ before, ':' :: rest, groups⟩ := by
  obtain ⟨stem, hne, hpath⟩ := h.stem
  constructor
  · have hchars : ∀ c ∈ stem, isPathChar c = true := fun c hc =>
      h.path c (hpath ▸ List.mem_append_left _ hc)
    have hway := Takes.of_takesStem havoids hstem hne hchars before (':' :: rest) groups
    rw [← hpath] at hway
    exact hway
  · exact fun t hway hcolon => hway.eq_of_avoids havoids h.colon_not_mem_path hcolon

/-- The second character of the path of a bare diagnostic is no colon. -/
theorem ne_drive_append (h : IsBare ending path line column) (c : Char) (rest behind : List Char) :
    path ++ ':' :: rest ≠ c :: ':' :: behind := by
  intro hdrive
  obtain ⟨stem, hne, hpath⟩ := h.stem
  obtain ⟨first, more, rfl⟩ := List.exists_cons_of_ne_nil hne
  have hlength : 1 < path.length := by rw [hpath]; simp
  have hcut : (path ++ ':' :: rest)[1]? = some ':' := by rw [hdrive]; rfl
  rw [List.getElem?_append_left hlength] at hcut
  exact absurd (List.mem_of_getElem? hcut) h.colon_not_mem_path

/-- A pattern for paths takes the path of a bare diagnostic, and no other way through it ends before
a colon. -/
theorem way_takesPath {p : Pattern} (hp : p.takesPath ending = true)
    (h : IsBare ending path line column) (before rest : List Char)
    (groups : List (Nat × Extent)) :
    Way p ⟨before, path ++ ':' :: rest, groups⟩ ⟨path.reverse ++ before, ':' :: rest, groups⟩ ∧
      ∀ t, Way p ⟨before, path ++ ':' :: rest, groups⟩ t → t.rest.head? = some ':' →
        t = ⟨path.reverse ++ before, ':' :: rest, groups⟩ := by
  unfold takesPath at hp
  split at hp
  · simp only [Bool.and_eq_true] at hp
    obtain ⟨hway, hunique⟩ := way_takesStem hp.1.2 hp.2 h before rest groups
    refine ⟨⟨_, Or.inr rfl, hway⟩, ?_⟩
    rintro t ⟨m, hdrive | rfl, hmt⟩ hcolon
    · obtain ⟨m', ⟨c, behind, hc, -, rfl⟩, d, behind', hd, hmem, -⟩ := hdrive
      obtain rfl := (CharSet.mem_iff_of_isColon hp.1.1).mp hmem
      obtain rfl : behind = ':' :: behind' := hd
      exact absurd hc (ne_drive_append h c rest behind')
    · exact hunique t hmt hcolon
  · simp only [Bool.and_eq_true] at hp
    exact way_takesStem hp.1 hp.2 h before rest groups

/-- A greedy span takes all characters of its set, if that is accepted. -/
theorem spanGreedy_eq_some {set : CharSet} {k : List Char → List Char → Option α} {a : α}
    {used before rest : List Char} (hused : ∀ c ∈ used, set.mem c = true)
    (hrest : ∀ c ∈ rest.head?, set.mem c = false)
    (hk : k (used.reverse ++ before) rest = some a) :
    spanGreedy set k before (used ++ rest) = some a := by
  induction used generalizing before with
  | nil =>
    cases rest with
    | nil => exact hk
    | cons c rest =>
      have hc : ¬ set.mem c = true := by simp [hrest c rfl]
      rw [List.nil_append, spanGreedy, if_neg hc]
      exact hk
  | cons c used ih =>
    obtain ⟨hc, hused⟩ := List.forall_mem_cons.mp hused
    rw [List.cons_append, spanGreedy, if_pos hc, ih hused (by simpa using hk)]

/-- A set takes a character of its own. -/
theorem run_one_of_mem {set : CharSet} {k : Place → Option α} {c : Char} (hc : set.mem c = true)
    (before rest : List Char) (groups : List (Nat × Extent)) :
    run (one set) k ⟨before, c :: rest, groups⟩ = k ⟨c :: before, rest, groups⟩ :=
  if_pos hc

/-- A choice takes what its first pattern takes, if that is accepted. -/
theorem run_alt_left {p q : Pattern} {k : Place → Option α} {s : Place} {a : α}
    (h : run p k s = some a) : run (alt p q) k s = some a := by
  rw [run, h]

/-- A pattern for numbers takes all digits, if that is accepted. -/
theorem run_takesNumber {p : Pattern} (hp : p.takesNumber = true) {ds : List Char}
    (hds : IsDigits ds) {rest : List Char} (hrest : ∀ c ∈ rest.head?, Text.isDigit c = false)
    {before : List Char} {groups : List (Nat × Extent)} {a : α}
    (hk : k ⟨ds.reverse ++ before, rest, groups⟩ = some a) :
    run p k ⟨before, ds ++ rest, groups⟩ = some a := by
  unfold takesNumber at hp
  split at hp
  · obtain ⟨hne, hdigits⟩ := hds
    obtain ⟨d, ds, rfl⟩ := List.exists_cons_of_ne_nil hne
    obtain ⟨hd, hdigits⟩ := List.forall_mem_cons.mp hdigits
    have hmem : CharSet.digit.mem d = true := isDigit_of_isPlainDigit hd
    rw [List.cons_append, run, run_one_of_mem hmem, run]
    refine spanGreedy_eq_some (fun c hc => isDigit_of_isPlainDigit (hdigits c hc)) hrest ?_
    simpa using hk
  · cases hp

/-- The group of the column. -/
def columnGroup : Option (List Char) → List (Nat × Extent)
  | none => []
  | some column => [(3, ⟨column, []⟩)]

/-- A pattern for columns takes the column number if there is one, and else nothing. -/
theorem run_takesColumn {p : Pattern} (hp : p.takesColumn = true)
    (hcolumn : ∀ ds ∈ column, IsDigits ds) {before : List Char} {groups : List (Nat × Extent)}
    {a : α}
    (hk : k ⟨(behindLine column).reverse ++ before, [], columnGroup column ++ groups⟩ = some a) :
    run p k ⟨before, behindLine column, groups⟩ = some a := by
  unfold takesColumn at hp
  split at hp
  · rename_i s q
    simp only [Bool.and_eq_true] at hp
    cases column with
    | none => exact hk
    | some ds =>
      have hmem : s.mem ':' = true := (CharSet.mem_iff_of_isColon hp.1).mpr rfl
      have hnumber : run q (fun t => k { t with groups := (3, ⟨ds, t.rest⟩) :: t.groups })
          ⟨':' :: before, ds ++ [], groups⟩ = some a := by
        refine run_takesNumber hp.2 (hcolumn ds rfl) (by simp) ?_
        simpa [behindLine, columnGroup] using hk
      rw [List.append_nil] at hnumber
      refine run_alt_left ?_
      rw [behindLine, run, run_one_of_mem hmem]
      exact hnumber
  · cases hp

/-- A pattern for what follows a line number takes it up to the end. -/
theorem run_takesTail {p : Pattern} (hp : p.takesTail = true)
    (hcolumn : ∀ ds ∈ column, IsDigits ds) {before : List Char} {groups : List (Nat × Extent)} :
    run p some ⟨before, behindLine column, groups⟩ =
      some ⟨(behindLine column).reverse ++ before, [], columnGroup column ++ groups⟩ := by
  unfold takesTail at hp
  split at hp
  · simp only [Bool.and_eq_true] at hp
    -- at the end there is no colon, so that nothing more is taken
    exact run_takesColumn hp.1 hcolumn rfl
  · exact run_takesColumn hp hcolumn rfl

/-- The groups of a bare diagnostic. -/
def bareGroups (path line : List Char) (column : Option (List Char)) : List (Nat × Extent) :=
  columnGroup column ++ [(2, ⟨line ++ behindLine column, behindLine column⟩),
    (1, ⟨bareText path line column, ':' :: (line ++ behindLine column)⟩)]

/-- The text of an extent with more text behind it. -/
theorem text_extent_append (text rest : List Char) :
    (⟨text ++ rest, rest⟩ : Extent).text = text := by
  simp [Extent.text]

/-- The texts of the groups of a bare diagnostic. -/
theorem group?_bareGroups (path line : List Char) (column : Option (List Char))
    (before : List Char) :
    let found : Place := ⟨before, [], bareGroups path line column⟩
    found.group? 1 = some path ∧ found.group? 2 = some line ∧ found.group? 3 = column ∧
      found.group? 4 = none := by
  have hpath := text_extent_append path (':' :: (line ++ behindLine column))
  have hline := text_extent_append line (behindLine column)
  cases column with
  | none => exact ⟨congrArg some hpath, congrArg some hline, rfl, rfl⟩
  | some ds =>
    have hcolumn := text_extent_append ds []
    rw [List.append_nil] at hcolumn
    exact ⟨congrArg some hpath, congrArg some hline, congrArg some hcolumn, rfl⟩

/-- What follows a path starts with a colon and a digit. -/
theorem exists_digit_of_isSome_run {s : CharSet} (hs : s.isColon = true) {number tail : Pattern}
    (hnumber : number.takesNumber = true) {t : Place}
    (h : (run (seq (one s) (seq (group 2 number) tail)) k t).isSome) :
    ∃ d rest, t.rest = ':' :: d :: rest ∧ Text.isDigit d = true := by
  obtain ⟨a, ha⟩ := Option.isSome_iff_exists.mp h
  obtain ⟨u, ⟨m, ⟨c, rest, hrest, hc, rfl⟩, n, ⟨n', hway, -⟩, -⟩, -⟩ :=
    (run_realizes (seq (one s) (seq (group 2 number) tail))).sound _ _ _ ha
  unfold takesNumber at hnumber
  split at hnumber
  · obtain ⟨m', ⟨d, rest', hrest', hd, -⟩, -⟩ := hway
    obtain rfl : rest = d :: rest' := hrest'
    exact ⟨d, rest', by rw [hrest, (CharSet.mem_iff_of_isColon hs).mp hc], hd⟩
  · cases hnumber

/-- The patterns for what follows a path take a colon, the line number and what follows it. -/
theorem run_behindPath {s : CharSet} (hs : s.isColon = true) {number tail : Pattern}
    (hnumber : number.takesNumber = true) (htail : tail.takesTail = true) (hline : IsDigits line)
    (hcolumn : ∀ ds ∈ column, IsDigits ds) (before : List Char) (groups : List (Nat × Extent)) :
    run (seq (one s) (seq (group 2 number) tail)) some
      ⟨before, ':' :: (line ++ behindLine column), groups⟩ =
        some ⟨(behindLine column).reverse ++ (line.reverse ++ ':' :: before), [],
          columnGroup column ++ (2, ⟨line ++ behindLine column, behindLine column⟩) :: groups⟩ := by
  have hmem : s.mem ':' = true := (CharSet.mem_iff_of_isColon hs).mpr rfl
  rw [run, run_one_of_mem hmem, run, run]
  refine run_takesNumber hnumber hline ?_ (run_takesTail htail hcolumn)
  cases column with
  | none => simp [behindLine]
  | some ds =>
    intro c hc
    obtain rfl : ':' = c := Option.some.inj hc
    decide

/-- Where the ways through a pattern that end before a colon and a digit all end behind the path, a
bare diagnostic is taken as a whole. -/
theorem run_eq_some_of_unique {q : Pattern} {s : CharSet} (hs : s.isColon = true)
    {number tail : Pattern} (hnumber : number.takesNumber = true) (htail : tail.takesTail = true)
    (hline : IsDigits line) (hcolumn : ∀ ds ∈ column, IsDigits ds) {before : List Char}
    (hway : Way q ⟨before, bareText path line column, []⟩
      ⟨path.reverse ++ before, ':' :: (line ++ behindLine column), []⟩)
    (hunique : ∀ t, Way q ⟨before, bareText path line column, []⟩ t →
      (∃ d behind, t.rest = ':' :: d :: behind ∧ Text.isDigit d = true) →
        t = ⟨path.reverse ++ before, ':' :: (line ++ behindLine column), []⟩) :
    ∃ before', run (seq (group 1 q) (seq (one s) (seq (group 2 number) tail))) some
      ⟨before, bareText path line column, []⟩ =
        some ⟨before', [], bareGroups path line column⟩ := by
  let k : Place → Option Place := fun t =>
    run (seq (one s) (seq (group 2 number) tail)) some
      { t with groups := (1, ⟨bareText path line column, t.rest⟩) :: t.groups }
  have haccept : ∀ t, (k t).isSome →
      ∃ d behind, t.rest = ':' :: d :: behind ∧ Text.isDigit d = true := by
    intro t hk
    have hdigit := exists_digit_of_isSome_run hs hnumber hk
    exact hdigit
  refine ⟨(behindLine column).reverse ++ (line.reverse ++ ':' :: (path.reverse ++ before)), ?_⟩
  calc
    run (seq (group 1 q) (seq (one s) (seq (group 2 number) tail))) some
        ⟨before, bareText path line column, []⟩
      = run q k ⟨before, bareText path line column, []⟩ := rfl
    _ = k ⟨path.reverse ++ before, ':' :: (line ++ behindLine column), []⟩ :=
      run_eq_of_unique hway fun t ht hk => hunique t ht (haccept t hk)
    _ = _ := run_behindPath hs hnumber htail hline hcolumn (path.reverse ++ before) _

/-- Where a bare diagnostic starts, a pattern that locates its ending takes it as a whole. -/
theorem run_eq_some_of_locates {p : Pattern} (hp : p.locates ending = true)
    (h : IsBare ending path line column) (before : List Char) :
    ∃ before', run p some ⟨before, bareText path line column, []⟩ =
      some ⟨before', [], bareGroups path line column⟩ := by
  unfold locates at hp
  split at hp
  · rename_i q s number tail
    simp only [Bool.and_eq_true] at hp
    obtain ⟨⟨⟨hpath, hcolon⟩, hnumber⟩, htail⟩ := hp
    obtain ⟨hway, hunique⟩ := way_takesPath hpath h before (line ++ behindLine column) []
    refine run_eq_some_of_unique hcolon hnumber htail h.line h.column hway fun t ht hdigit => ?_
    obtain ⟨d, behind, hrest, -⟩ := hdigit
    exact hunique t ht (congrArg List.head? hrest)
  · cases hp

/-- What a run takes at the start of a text is the first match in it. -/
theorem searchFrom_of_run {p : Pattern} {before text : List Char} {found : Place}
    (h : run p some ⟨before, text, []⟩ = some found) : searchFrom p before text = some found := by
  cases text with
  | nil => exact h
  | cons c rest => rw [searchFrom, h]

/-- **Matches.** A pattern that locates an ending takes each bare diagnostic with it as a whole, and
the path, the line number and the column number go to its groups. -/
theorem search_eq_some_of_locates {p : Pattern} (hp : p.locates ending = true)
    (h : IsBare ending path line column) :
    ∃ before, p.search (bareText path line column) =
      some ⟨before, [], bareGroups path line column⟩ := by
  obtain ⟨before, hrun⟩ := run_eq_some_of_locates hp h []
  exact ⟨before, searchFrom_of_run hrun⟩

end Pattern

end TraceScan
