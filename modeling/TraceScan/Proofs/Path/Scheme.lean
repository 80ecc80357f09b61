import TraceScan.Proofs.Path.Joining

/-!
# Schemes in front of paths

A path needs no working directory if and only if it is absolute without its scheme
(`needsNoDirectory_iff`). Whether a path is absolute is asked of the path with its scheme, so the
two agree but for absolute paths behind a scheme: `absolute_agrees_iff_no_scheme`. Only the scheme
itself is dropped: the URI of a rooted path leads like the path, while the URI of a path on a drive,
which has a slash more, keeps that slash and names no drive: `uri_leads_like_path_iff_rooted`.
-/

namespace TraceScan.Path

/-! ## Dropping the scheme -/

/-- A scheme in front is dropped. -/
theorem dropScheme_append (path : List Char) : dropScheme ("file://".toList ++ path) = path := by
  rw [dropScheme, if_pos]
  · exact List.drop_left
  · rw [List.isPrefixOf_iff_prefix]
    exact List.prefix_append _ _

/-- A path behind a scheme is not absolute. -/
theorem isAbsolute_scheme_append (path : List Char) :
    isAbsolute ("file://".toList ++ path) = false := by
  have hdrive : hasDrive ("file://".toList ++ path) = false := hasDrive_of_ne (by decide) _
  rw [isAbsolute, hdrive]
  rfl

/-- What follows a scheme leads where it leads without it. -/
theorem leads_resolve_scheme (home cwd : Option String) (path : String) :
    Leads (home.map String.toList) (cwd.map String.toList) path.toList
      (resolve home cwd ("file://" ++ path)).toList := by
  have hleads := leads_resolve home cwd ("file://" ++ path)
  rwa [String.toList_append, dropScheme_append] at hleads

/-! ## Paths that need no directory -/

section Kinds

variable {home cwd : Option (List Char)} {path place place' : List Char}

/-- A path leads to one place. -/
theorem Leads.unique (h : Leads home cwd path place) (h' : Leads home cwd path place') :
    place = place' := by
  cases h with
  | rooted rest => exact ((Settled.rooted rest).eq_of_leads h').symm
  | home hnames =>
    cases h' with
    | home _ => rfl
    | otherHome hother => exact absurd hnames hother
    | drive hdrive => exact absurd rfl (head?_of_hasDrive hdrive).2
    | relative hrelative => cases hrelative
  | otherHome hother => exact ((Settled.otherHome hother).eq_of_leads h').symm
  | drive hdrive => exact (h'.eq_of_hasDrive hdrive).symm
  | relative hrelative => exact (h'.eq_below hrelative).symm

/-- An absolute path leads to its place from everywhere. -/
theorem Leads.of_isAbsolute (h : Leads home cwd path place) (habsolute : isAbsolute path = true)
    (cwd' : Option (List Char)) : Leads home cwd' path place := by
  cases h with
  | rooted rest => exact .rooted rest
  | home hnames => exact .home hnames
  | otherHome hother => exact .otherHome hother
  | drive hdrive => exact .drive hdrive
  | relative hrelative =>
    rw [hrelative] at habsolute
    cases habsolute

end Kinds

/-- Whether a path leads to the same place from every working directory and without one. -/
def NeedsNoDirectory (home : Option String) (path : String) : Prop :=
  ∀ cwd cwd' : Option String, resolve home cwd path = resolve home cwd' path

/-- A path needs no directory if and only if it is absolute without its scheme. -/
theorem needsNoDirectory_iff (home : Option String) (path : String) :
    NeedsNoDirectory home path ↔ isAbsolute (dropScheme path.toList) = true := by
  constructor
  · intro halike
    by_contra hrelative
    rw [Bool.not_eq_true] at hrelative
    -- A relative path leads to different places from two directories.
    have hfirst := (leads_resolve home (some "a") path).eq_below hrelative
    have hsecond := (leads_resolve home (some "b") path).eq_below hrelative
    rw [halike (some "a") (some "b"), hsecond] at hfirst
    have hheads : some 'b' = some 'a' := congrArg List.head? hfirst
    exact absurd hheads (by decide)
  · intro habsolute cwd cwd'
    rw [← String.toList_inj]
    exact ((leads_resolve home cwd path).of_isAbsolute habsolute _).unique
      (leads_resolve home cwd' path)

/-- Whether a path is an absolute one with a scheme in front. -/
def NamesAbsolute (path : String) : Prop :=
  ∃ named : String, path = "file://" ++ named ∧ isAbsolute named.toList = true

/-- A path is absolute without its scheme if it is absolute or names an absolute path. -/
theorem isAbsolute_dropScheme_iff (path : String) :
    isAbsolute (dropScheme path.toList) = true ↔
      isAbsolute path.toList = true ∨ NamesAbsolute path := by
  constructor
  · intro habsolute
    by_cases hscheme : "file://".toList <+: path.toList
    · obtain ⟨behind, hbehind⟩ := hscheme
      obtain ⟨named, rfl⟩ : ∃ named : String, named.toList = behind := ⟨_, String.toList_ofList⟩
      rw [← hbehind, dropScheme_append] at habsolute
      refine .inr ⟨named, ?_, habsolute⟩
      rw [← String.toList_inj, String.toList_append, hbehind]
    · rw [dropScheme_eq_self hscheme] at habsolute
      exact .inl habsolute
  · rintro (habsolute | ⟨named, rfl, habsolute⟩)
    · have hscheme : ¬ "file://".toList <+: path.toList := by
        rintro ⟨behind, hbehind⟩
        rw [← hbehind, isAbsolute_scheme_append] at habsolute
        cases habsolute
      rwa [dropScheme_eq_self hscheme]
    · rwa [String.toList_append, dropScheme_append]

/-- **Absolute paths.** A path needs no working directory if and only if it is absolute or an
absolute path with a scheme in front. So to be absolute is to need no working directory for all
paths but those with such a scheme, which need none and are not absolute. -/
theorem absolute_agrees_iff_no_scheme (home : Option String) (path : String) :
    (NeedsNoDirectory home path ↔ isAbsolute path.toList = true ∨ NamesAbsolute path) ∧
      ((isAbsolute path.toList = true ↔ NeedsNoDirectory home path) ↔ ¬ NamesAbsolute path) := by
  have hneeds : NeedsNoDirectory home path ↔
      isAbsolute path.toList = true ∨ NamesAbsolute path :=
    (needsNoDirectory_iff home path).trans (isAbsolute_dropScheme_iff path)
  refine ⟨hneeds, ?_⟩
  rw [hneeds]
  constructor
  · rintro hagree ⟨named, rfl, habsolute⟩
    have hboth := hagree.mpr (.inr ⟨named, rfl, habsolute⟩)
    rw [String.toList_append, isAbsolute_scheme_append] at hboth
    cases hboth
  · intro hnone
    exact (or_iff_left hnone).symm

/-- A rooted path with a scheme in front is not absolute, though it leads to its place from
everywhere. -/
theorem scheme_hides_root :
    isAbsolute "file:///app/index.js".toList = false ∧
      NeedsNoDirectory (some "/home") "file:///app/index.js" ∧
      resolve (some "/home") none "file:///app/index.js" = "/app/index.js" := by
  refine ⟨by decide +kernel, ?_, by decide +kernel⟩
  rw [needsNoDirectory_iff]
  decide +kernel

/-! ## Files as URIs -/

/-- The URI of a file: a path on a drive gets a slash in front. -/
def fileUri (path : String) : String :=
  if hasDrive path.toList then "file:///" ++ path else "file://" ++ path

/-- A rooted path leads to itself. -/
theorem resolve_of_rooted {path : String} (h : path.toList.head? = some '/')
    (home cwd : Option String) : resolve home cwd path = path := by
  rw [← String.toList_inj, toList_resolve, (Settled.of_head? h).resolveChars_eq]

/-- A rooted path leads to itself with a scheme in front, too. -/
theorem resolve_scheme_of_rooted {path : String} (h : path.toList.head? = some '/')
    (home cwd : Option String) : resolve home cwd ("file://" ++ path) = path := by
  rw [← String.toList_inj]
  exact (Settled.of_head? h).eq_of_leads (leads_resolve_scheme home cwd path)

/-- A path on a drive leads where it leads with a scheme right in front. -/
theorem resolve_scheme_of_hasDrive {path : String} (h : hasDrive path.toList = true)
    (home cwd : Option String) :
    resolve home cwd ("file://" ++ path) = resolve home cwd path := by
  rw [← String.toList_inj, toList_resolve home cwd path, resolveChars_of_hasDrive h]
  exact (leads_resolve_scheme home cwd path).eq_of_hasDrive h

/-- The slash that the URI of a path on a drive has in front of the drive is kept. -/
theorem resolve_uri_of_hasDrive (home cwd : Option String) (path : String) :
    resolve home cwd ("file:///" ++ path) = "/" ++ path := by
  have hslash : "file:///" ++ path = "file://" ++ ("/" ++ path) := by
    rw [← String.append_assoc]
    rfl
  rw [hslash]
  exact resolve_scheme_of_rooted (by simp) home cwd

/-- **URIs.** The URI of a path that is rooted or on a drive leads where the path leads if and only
if the path is rooted. For a path on a drive the slash of the URI stays in front of the drive; with
the scheme alone in front the path leads where it should. -/
theorem uri_leads_like_path_iff_rooted {path : String}
    (h : path.toList.head? = some '/' ∨ hasDrive path.toList = true)
    (home cwd : Option String) :
    (resolve home cwd (fileUri path) = resolve home cwd path ↔ path.toList.head? = some '/') ∧
      (hasDrive path.toList = true →
        resolve home cwd (fileUri path) = "/" ++ path ∧
          resolve home cwd ("file://" ++ path) = resolve home cwd path) := by
  by_cases hdrive : hasDrive path.toList = true
  · have huri : resolve home cwd (fileUri path) = "/" ++ path := by
      rw [fileUri, if_pos hdrive]
      exact resolve_uri_of_hasDrive home cwd path
    refine ⟨iff_of_false ?_ (head?_of_hasDrive hdrive).1,
      fun _ => ⟨huri, resolve_scheme_of_hasDrive hdrive home cwd⟩⟩
    intro heq
    -- The path keeps its drive, and what the URI leads to starts with a slash.
    have hkept := hasDrive_map_forwardSlash hdrive
    rw [← resolveChars_of_hasDrive hdrive (home.map String.toList) (cwd.map String.toList),
      ← toList_resolve, ← heq, huri] at hkept
    exact (head?_of_hasDrive hkept).1 (by simp)
  · have hrooted := h.resolve_right hdrive
    rw [fileUri, if_neg hdrive, resolve_scheme_of_rooted hrooted, resolve_of_rooted hrooted]
    exact ⟨iff_of_true rfl hrooted, fun hno => absurd hno hdrive⟩

/-- With one slash less the drive of the URI is found, and its backslashes are turned. -/
theorem uri_of_drive_below_root :
    ("C:\\x\\a.mjs".toList.head? = some '/' ∨ hasDrive "C:\\x\\a.mjs".toList = true) ∧
      resolve (some "/home") (some "/w") (fileUri "C:\\x\\a.mjs") = "/C:\\x\\a.mjs" ∧
      resolve (some "/home") (some "/w") "file://C:\\x\\a.mjs" = "C:/x/a.mjs" := by
  have hdrive : hasDrive "C:\\x\\a.mjs".toList = true := by decide +kernel
  obtain ⟨-, hkept⟩ := uri_leads_like_path_iff_rooted (.inr hdrive) (some "/home") (some "/w")
  obtain ⟨huri, hscheme⟩ := hkept hdrive
  exact ⟨.inr hdrive, huri, hscheme.trans (by decide +kernel)⟩

/-- The URI of a path on a drive leads to a place that is on no drive. -/
theorem uri_loses_drive :
    hasDrive "C:/x/a.js".toList = true ∧
      resolve (some "/home") (some "/w") "file:///C:/x/a.js" = "/C:/x/a.js" ∧
      resolve (some "/home") (some "/w") "C:/x/a.js" = "C:/x/a.js" := by
  decide +kernel

end TraceScan.Path
