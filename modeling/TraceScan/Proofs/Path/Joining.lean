import TraceScan.Proofs.Path

/-!
# Joining relative paths to directories

The components `./` in front of a relative path and the slashes behind a directory say nothing.
Every path is a number of such components and a rest without them (`exists_eq_dots_append`), every
directory a base and a number of slashes (`exists_eq_append_slashes`), and what is joined depends on
the rest and on the base alone: `joining_ignores_dots_and_slashes`.
-/

namespace TraceScan.Path

/-! ## Components that say nothing -/

/-- The component `./`, `n` times. -/
def dots (n : Nat) : List Char :=
  (List.replicate n ['.', '/']).flatten

/-- One component more stands in front. -/
theorem dots_succ (n : Nat) : dots (n + 1) = '.' :: '/' :: dots n := by
  rw [dots, List.replicate_succ, List.flatten_cons]
  rfl

/-- Components in front of a path are dropped with those that it has. -/
theorem dropDots_dots_append (n : Nat) (path : List Char) :
    dropDots (dots n ++ path) = dropDots path := by
  induction n with
  | zero => rfl
  | succ n ih =>
    rw [dots_succ, List.cons_append, List.cons_append, dropDots]
    exact ih

/-- What is dropped is a number of components. -/
theorem exists_eq_dots_append (path : List Char) : ∃ n, path = dots n ++ dropDots path := by
  fun_induction dropDots path with
  | case1 rest ih =>
    obtain ⟨n, hn⟩ := ih
    refine ⟨n + 1, ?_⟩
    rw [dots_succ, List.cons_append, List.cons_append, ← hn]
  | case2 path hpath => exact ⟨0, rfl⟩

/-- No component is left. -/
theorem not_prefix_dropDots (path : List Char) : ¬ ['.', '/'] <+: dropDots path := by
  fun_induction dropDots path with
  | case1 rest ih => exact ih
  | case2 path hpath =>
    rintro ⟨rest, rfl⟩
    exact hpath rest rfl

/-! ## Slashes behind a directory -/

/-- Slashes behind a directory are dropped with those that it has. -/
theorem dropSlashes_append_slashes (base : List Char) (k : Nat) :
    dropSlashes (base ++ List.replicate k '/') = dropSlashes base := by
  induction k with
  | zero => rw [List.replicate_zero, List.append_nil]
  | succ k ih =>
    rw [List.replicate_succ', ← List.append_assoc]
    exact (List.rdropWhile_concat_pos (· == '/') _ '/' rfl).trans ih

/-- What is dropped is a number of slashes. -/
theorem exists_eq_append_slashes (base : List Char) :
    ∃ k, base = dropSlashes base ++ List.replicate k '/' := by
  have hslashes : ∀ c ∈ base.rtakeWhile (· == '/'), c = '/' :=
    fun c hc => beq_iff_eq.mp (List.mem_rtakeWhile_imp (p := (· == '/')) hc)
  refine ⟨(base.rtakeWhile (· == '/')).length, ?_⟩
  rw [← List.eq_replicate_of_mem hslashes]
  exact List.rdropWhile_append_rtakeWhile.symm

/-- No slash is left at the end. -/
theorem getLast?_dropSlashes (base : List Char) : (dropSlashes base).getLast? ≠ some '/' := by
  intro hlast
  have hne : dropSlashes base ≠ [] := by
    intro hnil
    rw [hnil] at hlast
    cases hlast
  rw [List.getLast?_eq_some_getLast hne, Option.some_inj] at hlast
  exact List.rdropWhile_last_not (· == '/') base hne (beq_iff_eq.mpr hlast)

/-- What is joined depends neither on components in front of the path nor on slashes behind the
directory. -/
theorem join_append_slashes_dots (base path : List Char) (k m : Nat) :
    join (base ++ List.replicate k '/') (dots m ++ path) = join base path := by
  rw [join, join, dropSlashes_append_slashes, dropDots_dots_append]

/-! ## Relative paths -/

/-- Whether a path is relative: neither has it a scheme, nor does it start with a slash, a tilde or
a drive. -/
def IsRelative (path : List Char) : Prop :=
  ¬ "file://".toList <+: path ∧ isAbsolute path = false

instance (path : List Char) : Decidable (IsRelative path) :=
  inferInstanceAs (Decidable (_ ∧ _))

/-- A path without a scheme keeps all it has. -/
theorem dropScheme_eq_self {path : List Char} (h : ¬ "file://".toList <+: path) :
    dropScheme path = path := by
  rw [dropScheme, if_neg]
  rwa [List.isPrefixOf_iff_prefix]

/-- A path that is not absolute leads below the working directory. -/
theorem Leads.eq_below {home cwd : Option (List Char)} {path place : List Char}
    (h : Leads home cwd path place) (hrelative : isAbsolute path = false) :
    place = below cwd path := by
  cases h with
  | rooted rest => cases hrelative
  | home _ => cases hrelative
  | otherHome _ => cases hrelative
  | drive hdrive =>
    rw [isAbsolute, hdrive, Bool.or_true] at hrelative
    cases hrelative
  | relative _ => rfl

/-- A relative path leads below the working directory. -/
theorem IsRelative.resolveChars_eq {path : List Char} (h : IsRelative path)
    (home cwd : Option (List Char)) : resolveChars home cwd path = below cwd path := by
  have hleads := leads_resolveChars home cwd path
  rw [dropScheme_eq_self h.1] at hleads
  exact hleads.eq_below h.2

/-- A path whose second character is no colon is on no drive. -/
theorem hasDrive_of_ne {letter colon : Char} (h : colon ≠ ':') (rest : List Char) :
    hasDrive (letter :: colon :: rest) = false := by
  rw [Bool.eq_false_iff]
  intro hdrive
  obtain ⟨letter', slash, behind, heq, -⟩ := exists_of_hasDrive hdrive
  rw [List.cons.injEq, List.cons.injEq] at heq
  exact h heq.2.1

/-- A path stays relative with components `./` in front of it. -/
theorem IsRelative.dots_append {path : List Char} (h : IsRelative path) (m : Nat) :
    IsRelative (dots m ++ path) := by
  cases m with
  | zero => exact h
  | succ m =>
    rw [dots_succ, List.cons_append, List.cons_append]
    have hdrive : hasDrive ('.' :: '/' :: (dots m ++ path)) = false := hasDrive_of_ne (by decide) _
    constructor
    · rintro ⟨rest, hrest⟩
      simp at hrest
    · rw [isAbsolute, hdrive]
      rfl

/-! ## Joining strings -/

/-- The text `s`, `n` times. -/
def times (n : Nat) (s : String) : String :=
  String.join (List.replicate n s)

/-- The characters of a text, `n` times. -/
theorem toList_times (n : Nat) (s : String) :
    (times n s).toList = (List.replicate n s.toList).flatten := by
  rw [times, String.toList_join, List.flatMap, List.map_replicate]

/-- The characters of a component `./`, `n` times. -/
theorem toList_times_dots (n : Nat) : (times n "./").toList = dots n :=
  toList_times n "./"

/-- The characters of `n` slashes. -/
theorem toList_times_slash (n : Nat) : (times n "/").toList = List.replicate n '/' :=
  (toList_times n "/").trans List.flatten_replicate_singleton

/-- A relative path is joined to a working directory, whatever says nothing in them. -/
theorem IsRelative.toList_resolve_some {cwd path : String} (hpath : IsRelative path.toList)
    (hcwd : cwd ≠ "") (home : Option String) (m k : Nat) :
    (resolve home (some (cwd ++ times k "/")) (times m "./" ++ path)).toList =
      join cwd.toList path.toList := by
  have hne : cwd.toList ++ List.replicate k '/' ≠ [] := by
    simp [hcwd]
  rw [toList_resolve, Option.map_some, String.toList_append, String.toList_append,
    toList_times_slash, toList_times_dots, (hpath.dots_append m).resolveChars_eq,
    ← join_append_slashes_dots cwd.toList path.toList k m]
  cases hbase : cwd.toList ++ List.replicate k '/' with
  | nil => exact absurd hbase hne
  | cons c base => rfl

/-- Without a working directory, or with an empty one, a relative path leads to itself. -/
theorem IsRelative.resolve_eq_self {path : String} (hpath : IsRelative path.toList)
    (home : Option String) (m : Nat) {cwd : Option String} (hcwd : cwd = none ∨ cwd = some "") :
    resolve home cwd (times m "./" ++ path) = times m "./" ++ path := by
  rw [← String.toList_inj, toList_resolve, String.toList_append, toList_times_dots,
    (hpath.dots_append m).resolveChars_eq]
  rcases hcwd with rfl | rfl <;> rfl

/-- **Joining.** Let `path` be relative and `cwd` a directory that is not empty. Then `cwd` is a
directory `base` without slashes at its end and a number of slashes, `path` is a number of
components `./` and a path `rest` without one in front, and `path` leads to `rest` under `base`.
More components and more slashes do not change that. Without a working directory, or with an empty
one, the path leads to itself with all its components. -/
theorem joining_ignores_dots_and_slashes {cwd path : String} (hcwd : cwd ≠ "")
    (hpath : IsRelative path.toList) (home : Option String) :
    ∃ base rest : String,
      (∃ j, cwd = base ++ times j "/") ∧ base.toList.getLast? ≠ some '/' ∧
      (∃ n, path = times n "./" ++ rest) ∧ ¬ "./".toList <+: rest.toList ∧
      resolve home (some cwd) path = base ++ "/" ++ rest ∧
      ∀ m,
        (∀ k, resolve home (some (cwd ++ times k "/")) (times m "./" ++ path) =
          base ++ "/" ++ rest) ∧
        resolve home none (times m "./" ++ path) = times m "./" ++ path ∧
        resolve home (some "") (times m "./" ++ path) = times m "./" ++ path := by
  obtain ⟨base, hbase⟩ : ∃ base : String, base.toList = dropSlashes cwd.toList :=
    ⟨_, String.toList_ofList⟩
  obtain ⟨rest, hrest⟩ : ∃ rest : String, rest.toList = dropDots path.toList :=
    ⟨_, String.toList_ofList⟩
  have hplace : (base ++ "/" ++ rest).toList = join cwd.toList path.toList := by
    rw [join, ← hbase, ← hrest]
    simp
  have hjoined (m k : Nat) : resolve home (some (cwd ++ times k "/")) (times m "./" ++ path) =
      base ++ "/" ++ rest := by
    rw [← String.toList_inj, hpath.toList_resolve_some hcwd, hplace]
  obtain ⟨j, hj⟩ := exists_eq_append_slashes cwd.toList
  obtain ⟨n, hn⟩ := exists_eq_dots_append path.toList
  refine ⟨base, rest, ⟨j, ?_⟩, ?_, ⟨n, ?_⟩, ?_, ?_, fun m => ⟨hjoined m, ?_, ?_⟩⟩
  · rwa [← String.toList_inj, String.toList_append, toList_times_slash, hbase]
  · rw [hbase]
    exact getLast?_dropSlashes _
  · rwa [← String.toList_inj, String.toList_append, toList_times_dots, hrest]
  · rw [hrest]
    exact not_prefix_dropDots _
  · simpa [times] using hjoined 0 0
  · exact hpath.resolve_eq_self home m (.inl rfl)
  · exact hpath.resolve_eq_self home m (.inr rfl)

/-- Of a directory of slashes nothing is left, and behind its components a path may start with a
tilde. -/
theorem tilde_below_root :
    "//" ≠ "" ∧ IsRelative "./~/a.c".toList ∧
      resolve (some "/home") (some "//") "./~/a.c" = "/~/a.c" ∧
      resolve (some "/home") (some ("//" ++ times 3 "/")) (times 2 "./" ++ "./~/a.c") = "/~/a.c" ∧
      resolve (some "/home") (some "") (times 2 "./" ++ "./~/a.c") = times 2 "./" ++ "./~/a.c" := by
  have hpath : IsRelative "./~/a.c".toList := by decide +kernel
  obtain ⟨base, rest, -, -, -, -, hplain, hmore⟩ :=
    @joining_ignores_dots_and_slashes "//" "./~/a.c" (by decide) hpath (some "/home")
  have hplace : resolve (some "/home") (some "//") "./~/a.c" = "/~/a.c" := by decide +kernel
  obtain ⟨hjoined, -, hempty⟩ := hmore 2
  exact ⟨by decide, hpath, hplace, ((hjoined 3).trans hplain.symm).trans hplace, hempty⟩

end TraceScan.Path
