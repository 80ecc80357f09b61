import TraceScan.Path
import TraceScan.Proofs.Pattern.Diagnostics
import TraceScan.Proofs.Text.Characters

/-!
# Bare diagnostics behind a drive

A path may start with a drive: a letter and a colon before a slash. A pattern that locates bare
diagnostics has one of two ways with it. If it provides for a drive, it takes the drive along
(`keepsDrive`). If it avoids colons, it cannot start before the path, because a slash and no line
number follows the colon of the drive; so the match starts behind the drive (`dropsDrive`). That is
said by `search_of_keepsDrive` and `search_of_dropsDrive`; and a pattern that passes
`refutesOnDrive` does not match at all.
-/

namespace TraceScan

variable {letter : Char} {ending path line : List Char} {column : Option (List Char)}

/-! ## Drives -/

/-- A plain letter may stand in a path. -/
theorem isPathChar_of_isPlainLetter {c : Char} (h : Text.isPlainLetter c = true) :
    isPathChar c = true := by
  have hall : Text.plainLetters.all isPathChar = true := by decide +kernel
  exact List.all_eq_true.mp hall c (Text.mem_plainLetters h)

/-- Whether a path stands behind a drive of the given letter. -/
structure OnDrive (letter : Char) (path : List Char) : Prop where
  letter : Text.isPlainLetter letter = true
  /-- The path starts with a slash, which is no digit. -/
  slash : ∃ c rest, path = c :: rest ∧ Text.isDigit c = false

/-- A path that has a drive stands behind it. -/
theorem OnDrive.of_hasDrive (h : Path.hasDrive (letter :: ':' :: path) = true) :
    OnDrive letter path := by
  cases path with
  | nil => cases h
  | cons c rest =>
    simp only [Path.hasDrive, Bool.and_eq_true, Bool.or_eq_true, beq_iff_eq] at h
    obtain ⟨⟨hletter, -⟩, hslash⟩ := h
    refine ⟨hletter, c, rest, rfl, ?_⟩
    rcases hslash with rfl | rfl <;> decide

/-- The letter of a drive is no colon. -/
theorem OnDrive.colon_not_mem (h : OnDrive letter path) : ':' ∉ [letter] := by
  rw [List.mem_singleton]
  exact (ne_colon_of_isPathChar (isPathChar_of_isPlainLetter h.letter)).symm

/-- The characters of a bare diagnostic behind a drive are those of paths and colons. -/
theorem OnDrive.isPathChar_or_colon (hdrive : OnDrive letter path)
    (h : IsBare ending path line column) {c : Char}
    (hc : c ∈ letter :: ':' :: bareText path line column) : isPathChar c = true ∨ c = ':' := by
  rcases List.mem_cons.mp hc with rfl | hc
  · exact Or.inl (isPathChar_of_isPlainLetter hdrive.letter)
  rcases List.mem_cons.mp hc with rfl | hc
  · exact Or.inr rfl
  · exact h.isPathChar_or_colon hc

namespace Pattern

/-! ## Patterns that do not match -/

/-- Whether no part of a bare diagnostic fits a phrase, nor does any if a drive stands before it:
the phrase asks for a character that there is not, or for more before its first colon than a letter.
-/
def isAbsentOnDrive (ending : List Char) (w : Phrase) : Bool :=
  isAbsent ending w &&
    (w.any (fun set => set.isBarred && !set.mem ':') || 2 ≤ (w.takeWhile (!·.isColon)).length)

/-- Whether a pattern matches no bare diagnostic with the given ending, behind a drive or not. -/
def refutesOnDrive (ending : List Char) (p : Pattern) : Bool :=
  p.shape.parts.any fun phrases => phrases.all (isAbsentOnDrive ending)

/-- What is refuted behind a drive is refuted without one. -/
theorem refutes_of_refutesOnDrive {p : Pattern} (h : p.refutesOnDrive ending = true) :
    p.refutes ending = true := by
  obtain ⟨phrases, hphrases, hall⟩ := List.any_eq_true.mp h
  refine List.any_eq_true.mpr ⟨phrases, hphrases, List.all_eq_true.mpr fun w hw => ?_⟩
  have habsent := List.all_eq_true.mp hall w hw
  simp only [isAbsentOnDrive, Bool.and_eq_true] at habsent
  exact habsent.1

/-- No part of a bare diagnostic behind a drive fits a phrase that is absent there. -/
theorem not_infix_of_isAbsentOnDrive (h : IsBare ending path line column)
    (hdrive : OnDrive letter path) {w : Phrase} (hw : isAbsentOnDrive ending w = true)
    {part : List Char} (hfits : Fits w part) :
    ¬ part <:+: letter :: ':' :: bareText path line column := by
  intro hpart
  simp only [isAbsentOnDrive, isAbsent, Bool.and_eq_true, Bool.or_eq_true, decide_eq_true_eq] at hw
  obtain ⟨habsent, hlong⟩ := hw
  have hbarred : ¬ w.any (fun set => set.isBarred && !set.mem ':') = true := by
    intro hany
    obtain ⟨set, hset, hbarred⟩ := List.any_eq_true.mp hany
    simp only [Bool.and_eq_true, Bool.not_eq_true'] at hbarred
    obtain ⟨c, hc, hmem⟩ := hfits.exists_mem hset
    rcases hdrive.isPathChar_or_colon h (hpart.subset hc) with hpath | rfl
    · rw [CharSet.isPathChar_eq_false_of_mem hbarred.1 hmem] at hpath
      cases hpath
    · rw [hbarred.2] at hmem
      cases hmem
  obtain ⟨⟨hcolon, hend⟩, hdigit⟩ := habsent.resolve_left hbarred
  replace hlong := hlong.resolve_left hbarred
  obtain ⟨before, behind, rfl, hfront⟩ := hfits.exists_colon hcolon
  obtain ⟨left, right, htext⟩ := hpart
  have hcut : [letter] ++ ':' :: bareText path line column =
      (left ++ before) ++ ':' :: (behind ++ right) := by
    rw [List.singleton_append, ← htext]
    simp
  -- what stands before the colon is too long for the letter of the drive
  rcases append_cut_cases hdrive.colon_not_mem hcut with ⟨hshort, -⟩ | ⟨a, hbefore, hrest⟩
  · have hlength := congrArg List.length hshort
    rw [List.length_append, ← hfront.length_eq, List.length_singleton] at hlength
    omega
  · have hpart : before <:+ [letter, ':'] ++ a := ⟨left, by rw [hbefore]; rfl⟩
    obtain ⟨hpath, hline⟩ := not_suffix_of_clashes h hend hdigit hfront [letter, ':']
    rcases h.eq_of_append_colon hrest with rfl | rfl
    · exact hpath hpart
    · exact hline hpart

/-- **No match.** A pattern that is refuted for an ending on drives matches no bare diagnostic with
it behind a drive. -/
theorem search_eq_none_of_refutesOnDrive {p : Pattern} (hp : p.refutesOnDrive ending = true)
    (h : IsBare ending path line column) (hdrive : OnDrive letter path) :
    p.search (letter :: ':' :: bareText path line column) = none := by
  obtain ⟨phrases, hphrases, habsent⟩ := List.any_eq_true.mp hp
  refine search_eq_none hphrases ?_
  rintro ⟨w, hw, part, hfits, hpart⟩
  exact not_infix_of_isAbsentOnDrive h hdrive (List.all_eq_true.mp habsent w hw) hfits hpart

/-! ## Patterns that match -/

/-- Whether a pattern avoids colons in its first group, so that it leaves a drive out. -/
def dropsDrive : Pattern → Bool
  | seq (group 1 p) _ => p.avoids ':'
  | _ => false

/-- Whether a pattern provides for a drive at the start of its first group. -/
def keepsDrive : Pattern → Bool
  | seq (group 1 (seq (alt (seq (one s) (one _)) empty) _)) _ => Text.plainLetters.all s.mem
  | _ => false

/-- A way that takes no colon ends before a colon and a digit only if a digit follows the first
colon. -/
theorem Way.not_digit_of_avoids {p : Pattern} (hp : p.avoids ':' = true) {first : List Char}
    (hfirst : ':' ∉ first) {c : Char} (hc : Text.isDigit c = false) {before rest : List Char}
    {groups : List (Nat × Extent)} {t : Place}
    (h : Way p ⟨before, first ++ ':' :: c :: rest, groups⟩ t) :
    ¬ ∃ d behind, t.rest = ':' :: d :: behind ∧ Text.isDigit d = true := by
  rintro ⟨d, behind, hrest, hd⟩
  obtain ⟨used, rest', hcut, rfl, hused, -⟩ := h.of_avoids hp
  obtain rfl : rest' = ':' :: d :: behind := hrest
  rcases append_cut_cases hfirst hcut with ⟨-, hbehind⟩ | ⟨a, rfl, -⟩
  · obtain ⟨rfl, -⟩ := List.cons.inj hbehind
    rw [hc] at hd
    cases hd
  · exact absurd (by simp) hused

/-- Where something else than a digit follows the first colon, a pattern that leaves drives out does
not match. -/
theorem run_eq_none_of_dropsDrive {p : Pattern} (hlocates : p.locates ending = true)
    (hdrops : p.dropsDrive = true) {first : List Char} (hfirst : ':' ∉ first) {c : Char}
    (hc : Text.isDigit c = false) (before rest : List Char) :
    run p some ⟨before, first ++ ':' :: c :: rest, []⟩ = none := by
  unfold locates at hlocates
  split at hlocates
  · rename_i q s number tail
    simp only [Bool.and_eq_true] at hlocates
    obtain ⟨⟨⟨-, hcolon⟩, hnumber⟩, -⟩ := hlocates
    cases hrun : run (seq (group 1 q) (seq (one s) (seq (group 2 number) tail))) some
        ⟨before, first ++ ':' :: c :: rest, []⟩ with
    | none => rfl
    | some found =>
      obtain ⟨t, ⟨m, hway, rfl⟩, hbehind⟩ := (run_realizes (group 1 q)).sound _ _ _ hrun
      have hdigit := exists_digit_of_isSome_run hcolon hnumber (Option.isSome_of_eq_some hbehind)
      exact absurd hdigit (hway.not_digit_of_avoids hdrops hfirst hc)
  · cases hlocates

/-- **Without the drive.** A pattern that locates an ending and leaves drives out takes a bare
diagnostic behind a drive as it takes the diagnostic alone. -/
theorem search_of_dropsDrive {p : Pattern} (hlocates : p.locates ending = true)
    (hdrops : p.dropsDrive = true) (h : IsBare ending path line column)
    (hdrive : OnDrive letter path) :
    ∃ before, p.search (letter :: ':' :: bareText path line column) =
      some ⟨before, [], bareGroups path line column⟩ := by
  obtain ⟨before, hrun⟩ := run_eq_some_of_locates hlocates h [':', letter]
  obtain ⟨c, rest, rfl, hc⟩ := hdrive.slash
  let behind := rest ++ ':' :: (line ++ behindLine column)
  have hletter : run p some ⟨[], letter :: ':' :: c :: behind, []⟩ = none :=
    run_eq_none_of_dropsDrive hlocates hdrops hdrive.colon_not_mem hc [] behind
  have hcolon : run p some ⟨[letter], ':' :: c :: behind, []⟩ = none :=
    run_eq_none_of_dropsDrive hlocates hdrops List.not_mem_nil hc [letter] behind
  refine ⟨before, ?_⟩
  show searchFrom p [] (letter :: ':' :: c :: behind) = _
  rw [searchFrom, hletter, searchFrom, hcolon]
  exact searchFrom_of_run hrun

/-- A pattern for paths behind an optional drive takes the path with its drive, and no other way
through it ends before a colon and a digit. -/
theorem way_takesDrive {s colon : CharSet} (hs : Text.plainLetters.all s.mem = true)
    (hcolon : colon.isColon = true) {p : Pattern} (havoids : p.avoids ':' = true)
    (hstem : p.takesStem ending = true) (h : IsBare ending path line column)
    (hdrive : OnDrive letter path) (before rest : List Char) (groups : List (Nat × Extent)) :
    let drive := seq (alt (seq (one s) (one colon)) empty) p
    let start : Place := ⟨before, letter :: ':' :: (path ++ ':' :: rest), groups⟩
    let stop : Place := ⟨(letter :: ':' :: path).reverse ++ before, ':' :: rest, groups⟩
    Way drive start stop ∧
      ∀ t, Way drive start t →
        (∃ d behind, t.rest = ':' :: d :: behind ∧ Text.isDigit d = true) → t = stop := by
  intro drive start stop
  obtain ⟨hway, hunique⟩ := way_takesStem havoids hstem h (':' :: letter :: before) rest groups
  have hstop : stop = ⟨path.reverse ++ ':' :: letter :: before, ':' :: rest, groups⟩ := by
    simp [stop]
  have hletter : s.mem letter = true :=
    List.all_eq_true.mp hs letter (Text.mem_plainLetters hdrive.letter)
  rw [hstop]
  refine ⟨⟨_, Or.inl ⟨⟨letter :: before, ':' :: (path ++ ':' :: rest), groups⟩,
    ⟨letter, _, rfl, hletter, rfl⟩, ':', _, rfl, (CharSet.mem_iff_of_isColon hcolon).mpr rfl, rfl⟩,
    hway⟩, ?_⟩
  rintro t ⟨m, hfirst, hmt⟩ hdigit
  rcases hfirst with ⟨m', ⟨c, behind, hc, -, rfl⟩, d, behind', hd, -, rfl⟩ | rfl
  · -- the drive has been taken
    obtain ⟨rfl, rfl⟩ := List.cons.inj hc
    obtain ⟨rfl, rfl⟩ := List.cons.inj hd
    obtain ⟨d, behind, hrest, -⟩ := hdigit
    exact hunique t hmt (congrArg List.head? hrest)
  · -- else the path would have to end before the colon of the drive
    obtain ⟨c, more, rfl, hc⟩ := hdrive.slash
    exact absurd hdigit (hmt.not_digit_of_avoids havoids hdrive.colon_not_mem hc)

/-- **With the drive.** A pattern that locates an ending and provides for drives takes a bare
diagnostic with its drive. -/
theorem search_of_keepsDrive {p : Pattern} (hlocates : p.locates ending = true)
    (hkeeps : p.keepsDrive = true) (h : IsBare ending path line column)
    (hdrive : OnDrive letter path) :
    ∃ before, p.search (letter :: ':' :: bareText path line column) =
      some ⟨before, [], bareGroups (letter :: ':' :: path) line column⟩ := by
  unfold locates at hlocates
  split at hlocates
  · rename_i q s number tail
    simp only [Bool.and_eq_true] at hlocates
    obtain ⟨⟨⟨hpath, hcolon⟩, hnumber⟩, htail⟩ := hlocates
    unfold keepsDrive at hkeeps
    split at hkeeps
    · rename_i set colon r _ heq
      obtain ⟨hgroup, -⟩ := Pattern.seq.inj heq
      obtain ⟨-, rfl⟩ := Pattern.group.inj hgroup
      simp only [takesPath, Bool.and_eq_true] at hpath
      obtain ⟨⟨hdriveColon, havoids⟩, hstem⟩ := hpath
      obtain ⟨hway, hunique⟩ :=
        way_takesDrive hkeeps hdriveColon havoids hstem h hdrive [] (line ++ behindLine column) []
      obtain ⟨before, hrun⟩ : ∃ before, run _ some
          ⟨[], bareText (letter :: ':' :: path) line column, []⟩ =
            some ⟨before, [], bareGroups (letter :: ':' :: path) line column⟩ :=
        run_eq_some_of_unique hcolon hnumber htail h.line h.column hway hunique
      exact ⟨before, searchFrom_of_run hrun⟩
    · cases hkeeps
  · cases hlocates

end Pattern

end TraceScan
