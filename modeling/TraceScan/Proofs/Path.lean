import Mathlib.Data.List.DropRight
import TraceScan.Path

/-!
# Where paths lead

A path belongs to one of five kinds, and its kind says where it leads (`Leads`,
`leads_resolveChars`). What a path leads to needs no directory any more if the directories that were
joined are rooted: it is settled, and a settled path leads to itself from everywhere. So resolution
reaches a fixed point at once: `resolve_reaches_fixed_point`.
-/

namespace TraceScan.Path

/-! ## Drives -/

/-- The start of a path on a drive. -/
theorem exists_of_hasDrive {path : List Char} (h : hasDrive path = true) :
    ∃ letter slash rest, path = letter :: ':' :: slash :: rest ∧
      Text.isPlainLetter letter = true ∧ (slash = '\\' ∨ slash = '/') := by
  unfold hasDrive at h
  split at h
  · simp only [Bool.and_eq_true, Bool.or_eq_true, beq_iff_eq] at h
    obtain ⟨⟨hletter, rfl⟩, hslash⟩ := h
    exact ⟨_, _, _, rfl, hletter, hslash⟩
  · cases h

/-- A path with a drive has it whatever follows. -/
theorem hasDrive_append {path : List Char} (h : hasDrive path = true) (rest : List Char) :
    hasDrive (path ++ rest) = true := by
  unfold hasDrive at h
  split at h
  · exact h
  · cases h

/-- A path on a drive starts neither with a slash nor with a tilde. -/
theorem head?_of_hasDrive {path : List Char} (h : hasDrive path = true) :
    path.head? ≠ some '/' ∧ path.head? ≠ some '~' := by
  obtain ⟨letter, slash, rest, rfl, hletter, -⟩ := exists_of_hasDrive h
  constructor <;> rintro ⟨⟩ <;> revert hletter <;> decide

/-- No path on a drive starts with a scheme. -/
theorem dropScheme_of_hasDrive {path : List Char} (h : hasDrive path = true) :
    dropScheme path = path := by
  obtain ⟨letter, slash, rest, rfl, -⟩ := exists_of_hasDrive h
  rw [dropScheme, if_neg]
  simp

/-- A slash of either kind as a forward slash. -/
def forwardSlash (c : Char) : Char :=
  if c == '\\' then '/' else c

/-- Turning the slashes leaves the drive. -/
theorem hasDrive_map_forwardSlash {path : List Char} (h : hasDrive path = true) :
    hasDrive (path.map forwardSlash) = true := by
  obtain ⟨letter, slash, rest, rfl, hletter, hslash⟩ := exists_of_hasDrive h
  have hplain : forwardSlash letter = letter := by
    rw [forwardSlash, if_neg]
    rw [beq_iff_eq]
    rintro rfl
    revert hletter
    decide
  have hforward : forwardSlash slash = '/' := by
    rcases hslash with rfl | rfl <;> rfl
  rw [List.map_cons, List.map_cons, List.map_cons, hplain, hforward]
  simp [hasDrive, hletter, forwardSlash]

/-- No backslash is left. -/
theorem backslash_not_mem_map_forwardSlash (path : List Char) :
    '\\' ∉ path.map forwardSlash := by
  intro hmem
  obtain ⟨c, -, hc⟩ := List.mem_map.mp hmem
  unfold forwardSlash at hc
  split at hc
  · exact absurd hc (by decide)
  · rename_i hne
    exact hne (by rw [hc]; rfl)

/-- Without backslashes there is nothing to turn. -/
theorem map_forwardSlash_eq_self {path : List Char} (h : '\\' ∉ path) :
    path.map forwardSlash = path := by
  refine (List.map_congr_left fun c hc => ?_).trans (List.map_id path)
  rw [forwardSlash, if_neg, id]
  rw [beq_iff_eq]
  rintro rfl
  exact h hc

/-! ## Kinds of paths -/

/-- Whether what follows a tilde makes it stand for the home directory: nothing or a slash. -/
def NamesHome (rest : List Char) : Prop :=
  ∀ c ∈ rest.head?, c = '/' ∨ c = '\\'

/-- The place of a path that needs a working directory. -/
def below (cwd : Option (List Char)) (path : List Char) : List Char :=
  match cwd with
  | none | some [] => path
  | some base => join base path

/-- Where a path without a scheme leads, one case for each kind of paths. -/
inductive Leads (home cwd : Option (List Char)) : List Char → List Char → Prop
  | rooted (rest : List Char) : Leads home cwd ('/' :: rest) ('/' :: rest)
  | home {rest : List Char} (h : NamesHome rest) :
    Leads home cwd ('~' :: rest) (underHome home rest)
  | otherHome {rest : List Char} (h : ¬ NamesHome rest) : Leads home cwd ('~' :: rest) ('~' :: rest)
  | drive {path : List Char} (h : hasDrive path = true) :
    Leads home cwd path (path.map forwardSlash)
  | relative {path : List Char} (h : isAbsolute path = false) : Leads home cwd path (below cwd path)

/-- **Kinds.** A path leads where its kind says, when its scheme is dropped. -/
theorem leads_resolveChars (home cwd : Option (List Char)) (raw : List Char) :
    Leads home cwd (dropScheme raw) (resolveChars home cwd raw) := by
  unfold resolveChars
  dsimp only
  generalize dropScheme raw = path
  split
  · exact .rooted _
  · exact .home (by simp [NamesHome])
  · exact .home (by simp [NamesHome])
  · exact .home (by simp [NamesHome])
  · rename_i rest hnil hslash hbackslash
    refine .otherHome fun hhome => ?_
    cases rest with
    | nil => exact hnil rfl
    | cons c rest =>
      rcases hhome c rfl with rfl | rfl
      · exact hslash rest rfl
      · exact hbackslash rest rfl
  · rename_i hslash hhome hhomeSlash hhomeBackslash htilde
    split
    · exact .drive ‹_›
    · rename_i hdrive
      refine .relative ?_
      cases path with
      | nil => rfl
      | cons c rest =>
        have hroot : c ≠ '/' := by rintro rfl; exact hslash rest rfl
        have hother : c ≠ '~' := by rintro rfl; exact htilde rest rfl
        simpa [isAbsolute, hroot, hother] using hdrive

/-- A path on a drive leads to itself with forward slashes. -/
theorem Leads.eq_of_hasDrive {home cwd : Option (List Char)} {path place : List Char}
    (h : Leads home cwd path place) (hdrive : hasDrive path = true) :
    place = path.map forwardSlash := by
  have hhead := head?_of_hasDrive hdrive
  cases h with
  | rooted rest => exact absurd rfl hhead.1
  | home _ => exact absurd rfl hhead.2
  | otherHome _ => exact absurd rfl hhead.2
  | drive _ => rfl
  | relative hrelative =>
    rw [isAbsolute, hdrive, Bool.or_true] at hrelative
    cases hrelative

/-- The characters of the place to which a path on a drive leads. -/
theorem resolveChars_of_hasDrive {path : List Char} (h : hasDrive path = true)
    (home cwd : Option (List Char)) : resolveChars home cwd path = path.map forwardSlash := by
  have hleads := leads_resolveChars home cwd path
  rw [dropScheme_of_hasDrive h] at hleads
  exact hleads.eq_of_hasDrive h

/-- A path with forward slashes in place of backslashes. -/
def forward (path : String) : String :=
  path.map fun c => if c == '\\' then '/' else c

/-- A path on a drive leads to itself with forward slashes. -/
theorem resolve_of_hasDrive {path : String} (h : hasDrive path.toList = true)
    (home cwd : Option String) : resolve home cwd path = forward path := by
  rw [resolve, resolveChars_of_hasDrive h, ← String.toList_map, String.ofList_toList]
  rfl

/-! ## Settled paths -/

/-- Whether a path says by itself where it leads, with forward slashes on a drive. -/
inductive Settled : List Char → Prop
  | rooted (rest : List Char) : Settled ('/' :: rest)
  | otherHome {rest : List Char} (h : ¬ NamesHome rest) : Settled ('~' :: rest)
  | drive {path : List Char} (h : hasDrive path = true) (hforward : '\\' ∉ path) : Settled path

/-- A path that starts with a slash is settled. -/
theorem Settled.of_head? {path : List Char} (h : path.head? = some '/') : Settled path := by
  obtain ⟨rest, rfl⟩ := List.head?_eq_some_iff.mp h
  exact .rooted rest

/-- A settled path needs no working directory. -/
theorem Settled.isAbsolute {path : List Char} (h : Settled path) : isAbsolute path = true := by
  cases h with
  | rooted rest => simp [Path.isAbsolute]
  | otherHome h => simp [Path.isAbsolute]
  | drive h hforward => simp [Path.isAbsolute, h]

/-- A settled path has no scheme. -/
theorem Settled.dropScheme_eq {path : List Char} (h : Settled path) : dropScheme path = path := by
  cases h with
  | rooted rest => rfl
  | otherHome h => rfl
  | drive h hforward => exact dropScheme_of_hasDrive h

variable {home cwd : Option (List Char)} {path place : List Char}

/-- A settled path leads to itself. -/
theorem Settled.eq_of_leads (h : Settled path) (hleads : Leads home cwd path place) :
    place = path := by
  have habsolute := h.isAbsolute
  cases h with
  | rooted rest =>
    cases hleads with
    | rooted rest => rfl
    | drive hdrive => exact absurd rfl (head?_of_hasDrive hdrive).1
    | relative hrelative => rw [habsolute] at hrelative; cases hrelative
  | otherHome hother =>
    cases hleads with
    | home hnames => exact absurd hnames hother
    | otherHome _ => rfl
    | drive hdrive => exact absurd rfl (head?_of_hasDrive hdrive).2
    | relative hrelative => rw [habsolute] at hrelative; cases hrelative
  | drive hdrive hforward =>
    exact (hleads.eq_of_hasDrive hdrive).trans (map_forwardSlash_eq_self hforward)

/-- A settled path is resolved to itself. -/
theorem Settled.resolveChars_eq (h : Settled path) (home cwd : Option (List Char)) :
    resolveChars home cwd path = path := by
  have hleads := leads_resolveChars home cwd path
  rw [h.dropScheme_eq] at hleads
  exact h.eq_of_leads hleads

/-! ## Rooted directories -/

/-- What is joined to a rooted directory is rooted. -/
theorem head?_join {base : List Char} (h : base.head? = some '/') (path : List Char) :
    (join base path).head? = some '/' := by
  have hbase : dropSlashes base <+: base := List.rdropWhile_prefix (· == '/') base
  rw [join]
  cases hcut : dropSlashes base with
  | nil => rfl
  | cons c rest =>
    rw [hcut] at hbase
    obtain ⟨behind, rfl⟩ := hbase
    exact h

/-- The home directory is rooted with all that is in it. -/
theorem head?_underHome {base : List Char} (h : base.head? = some '/') (rest : List Char) :
    (underHome (some base) rest).head? = some '/' := by
  simp only [underHome]
  split
  · exact h
  · exact head?_join h _

/-- Where a path leads is settled, if the home and the working directory are rooted. -/
theorem Leads.settled {own base : List Char} (hown : own.head? = some '/')
    (hbase : base.head? = some '/') (h : Leads (some own) (some base) path place) :
    Settled place := by
  cases h with
  | rooted rest => exact .rooted rest
  | home hnames => exact .of_head? (head?_underHome hown _)
  | otherHome hother => exact .otherHome hother
  | drive hdrive =>
    exact .drive (hasDrive_map_forwardSlash hdrive) (backslash_not_mem_map_forwardSlash path)
  | relative hrelative =>
    obtain ⟨rest, rfl⟩ := List.head?_eq_some_iff.mp hbase
    exact .of_head? (head?_join hbase path)

/-- The characters of the place to which a string leads. -/
theorem toList_resolve (home cwd : Option String) (path : String) :
    (resolve home cwd path).toList =
      resolveChars (home.map String.toList) (cwd.map String.toList) path.toList := by
  rw [resolve, String.toList_ofList]

/-- A string leads where its kind says, when its scheme is dropped. -/
theorem leads_resolve (home cwd : Option String) (path : String) :
    Leads (home.map String.toList) (cwd.map String.toList) (dropScheme path.toList)
      (resolve home cwd path).toList := by
  rw [toList_resolve]
  exact leads_resolveChars _ _ _

/-- Where no home directory is known, a tilde is kept and not joined to the working directory. -/
example : resolve none (some "/w") "~/src/main.rs" = "~/src/main.rs" := by decide +kernel

/-- **Fixed points.** Let the home directory and the working directory start with a slash. Then what
a path is resolved to needs no working directory, and it is resolved to itself from every working
directory and without one, and in every home and without one. -/
theorem resolve_reaches_fixed_point {home base : String} (hhome : home.toList.head? = some '/')
    (hbase : base.toList.head? = some '/') (raw : String) :
    isAbsolute (resolve (some home) (some base) raw).toList = true ∧
      ∀ home' cwd : Option String,
        resolve home' cwd (resolve (some home) (some base) raw) =
          resolve (some home) (some base) raw := by
  have hsettled : Settled (resolve (some home) (some base) raw).toList := by
    rw [toList_resolve]
    exact (leads_resolveChars _ _ _).settled hhome hbase
  generalize resolve (some home) (some base) raw = place at hsettled
  refine ⟨hsettled.isAbsolute, fun home' cwd => ?_⟩
  rw [resolve, hsettled.resolveChars_eq, String.ofList_toList]

/-- The scheme is dropped once only; what is left of it makes the path a relative one. -/
theorem second_scheme_is_below_cwd :
    let place := resolve (some "/home") (some "/w//") "file://file:///a"
    place = "/w/file:///a" ∧ isAbsolute place.toList = true ∧
      resolve (some "/home") (some "/v") place = place ∧ resolve none none place = place := by
  intro place
  obtain ⟨habsolute, hfixed⟩ := @resolve_reaches_fixed_point "/home" "/w//" (by decide +kernel)
    (by decide +kernel) "file://file:///a"
  exact ⟨by decide +kernel, habsolute, hfixed (some "/home") (some "/v"), hfixed none none⟩

end TraceScan.Path
