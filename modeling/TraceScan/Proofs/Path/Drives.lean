import TraceScan.Proofs.Path.Joining

/-!
# Places on drives

A path on a drive leads to itself with forward slashes. A place on a drive may also be joined: a
path below the working directory or below the home directory is joined to that directory as the two
are given, and only the slashes that join them are chosen. So a place on a drive has no backslash if
the path had the drive, and else exactly those of the directory and of the path below it. It is
resolved to itself with forward slashes: `drive_place_normal_or_joined`.
-/

namespace TraceScan.Path

/-! ## Backslashes -/

/-- The characters of a path with forward slashes. -/
theorem toList_forward (path : String) : (forward path).toList = path.toList.map forwardSlash :=
  String.toList_map

/-- A path with forward slashes has no backslash. -/
theorem backslash_not_mem_forward (path : String) : '\\' ∉ (forward path).toList := by
  rw [toList_forward]
  exact backslash_not_mem_map_forwardSlash _

/-- Only backslashes are turned. -/
theorem forward_eq_self_iff (path : String) : forward path = path ↔ '\\' ∉ path.toList := by
  constructor
  · intro h
    rw [← h]
    exact backslash_not_mem_forward path
  · intro h
    rw [← String.toList_inj, toList_forward]
    exact map_forwardSlash_eq_self h

/-- No backslash is dropped from the end of a directory. -/
theorem backslash_mem_dropSlashes (base : List Char) : '\\' ∈ dropSlashes base ↔ '\\' ∈ base := by
  obtain ⟨k, hk⟩ := exists_eq_append_slashes base
  conv_rhs => rw [hk]
  simp [List.mem_replicate]

/-- No component `./` has a backslash. -/
theorem backslash_not_mem_dots (n : Nat) : '\\' ∉ dots n := by
  induction n with
  | zero => exact List.not_mem_nil
  | succ n ih => simpa [dots_succ] using ih

/-- No backslash is dropped from the start of a path. -/
theorem backslash_mem_dropDots (path : List Char) : '\\' ∈ dropDots path ↔ '\\' ∈ path := by
  obtain ⟨n, hn⟩ := exists_eq_dots_append path
  conv_rhs => rw [hn]
  simp [backslash_not_mem_dots]

/-- A joined path has the backslashes of the directory and of the path. -/
theorem backslash_mem_join (base path : List Char) :
    '\\' ∈ join base path ↔ '\\' ∈ base ∨ '\\' ∈ path := by
  rw [join, List.mem_append, List.mem_cons, backslash_mem_dropSlashes, backslash_mem_dropDots]
  simp

/-! ## Joined places -/

/-- What follows a slash does not put a path on a drive. -/
theorem hasDrive_append_slash (base rest rest' : List Char) :
    hasDrive (base ++ '/' :: rest) = hasDrive (base ++ '/' :: rest') := by
  have hroot (path : List Char) : hasDrive ('/' :: path) = false :=
    Bool.eq_false_iff.mpr fun hdrive => (head?_of_hasDrive hdrive).1 rfl
  match base with
  | [] => exact (hroot rest).trans (hroot rest').symm
  | [letter] =>
    have hslash : '/' ≠ ':' := by decide
    exact (hasDrive_of_ne hslash rest).trans (hasDrive_of_ne hslash rest').symm
  | [_, _] => rfl
  | _ :: _ :: _ :: _ => rfl

/-- A joined path is on a drive if and only if the directory is, with a slash behind it. -/
theorem hasDrive_join (base path : List Char) :
    hasDrive (join base path) = hasDrive (base ++ ['/']) := by
  obtain ⟨k, hk⟩ := exists_eq_append_slashes base
  have hslashes : base ++ ['/'] = dropSlashes base ++ '/' :: List.replicate k '/' := by
    conv_lhs => rw [hk]
    rw [List.append_assoc, ← List.replicate_succ', List.replicate_succ]
  rw [join, hslashes]
  exact hasDrive_append_slash _ _ _

/-- Which directory a path leads below, and the path below that directory. -/
inductive Joined (home cwd : Option (List Char)) : List Char → List Char → List Char → Prop
  | home {base rest : List Char} (hhome : home = some base) (h : NamesHome rest) :
    Joined home cwd ('~' :: rest) base (rest.dropWhile fun c => c == '/' || c == '\\')
  | directory {base path : List Char} (hcwd : cwd = some base) (hne : base ≠ [])
    (h : isAbsolute path = false) : Joined home cwd path base path

variable {home cwd : Option (List Char)} {path place : List Char}

/-- A place on a drive to which a path without a drive leads is joined, or it is the home directory
itself. -/
theorem Leads.exists_joined (h : Leads home cwd path place) (hplace : hasDrive place = true)
    (hpath : hasDrive path = false) :
    ∃ base behind, Joined home cwd path base behind ∧
      (place = join base behind ∨ behind = [] ∧ place = base) := by
  cases h with
  | rooted rest => exact absurd rfl (head?_of_hasDrive hplace).1
  | home hnames =>
    cases home with
    | none => exact absurd rfl (head?_of_hasDrive hplace).2
    | some base =>
      refine ⟨_, _, .home rfl hnames, ?_⟩
      simp only [underHome]
      split
      · rename_i hnil
        exact .inr ⟨hnil, rfl⟩
      · exact .inl rfl
  | otherHome _ => exact absurd rfl (head?_of_hasDrive hplace).2
  | drive hdrive =>
    rw [hpath] at hdrive
    cases hdrive
  | relative hrelative =>
    -- Without a directory the place is the path, which is on no drive.
    cases cwd with
    | none => exact absurd (hpath.symm.trans hplace) (by decide)
    | some base =>
      cases base with
      | nil => exact absurd (hpath.symm.trans hplace) (by decide)
      | cons c base =>
        exact ⟨_, _, .directory rfl (List.cons_ne_nil c base) hrelative, .inl rfl⟩

/-- A joined place on a drive is in a directory on a drive and has the backslashes of what was
joined. -/
theorem Leads.backslash_mem_iff (h : Leads home cwd path place) (hplace : hasDrive place = true)
    (hpath : hasDrive path = false) :
    ∃ base behind, Joined home cwd path base behind ∧
      (place = join base behind ∨ behind = [] ∧ place = base) ∧
      hasDrive (base ++ ['/']) = true ∧ ('\\' ∈ place ↔ '\\' ∈ base ∨ '\\' ∈ behind) := by
  obtain ⟨base, behind, hjoined, hparts⟩ := h.exists_joined hplace hpath
  refine ⟨base, behind, hjoined, hparts, ?_⟩
  rcases hparts with rfl | ⟨rfl, rfl⟩
  · exact ⟨(hasDrive_join base behind).symm.trans hplace, backslash_mem_join base behind⟩
  · exact ⟨hasDrive_append hplace _, by simp⟩

/-- **Drives.** Let a path lead to a place on a drive. If the path is on a drive, without its
scheme, then the place has no backslash. If it is not, then the place is joined of a directory on a
drive, the working directory or the home directory, and the path below it, and it has a backslash if
and only if one of them has. From everywhere the place leads to itself with forward slashes, so it
leads to itself if and only if it has no backslash. -/
theorem drive_place_normal_or_joined {home cwd : Option String} {raw : String}
    (hplace : hasDrive (resolve home cwd raw).toList = true) :
    let path := dropScheme raw.toList
    let place := resolve home cwd raw
    (hasDrive path = true → '\\' ∉ place.toList) ∧
      (hasDrive path = false →
        ∃ base behind, Joined (home.map String.toList) (cwd.map String.toList) path base behind ∧
          (place.toList = join base behind ∨ behind = [] ∧ place.toList = base) ∧
          hasDrive (base ++ ['/']) = true ∧
          ('\\' ∈ place.toList ↔ '\\' ∈ base ∨ '\\' ∈ behind)) ∧
      ∀ home' cwd' : Option String,
        resolve home' cwd' place = forward place ∧
          (resolve home' cwd' place = place ↔ '\\' ∉ place.toList) := by
  intro path place
  have hleads : Leads (home.map String.toList) (cwd.map String.toList) path place.toList :=
    leads_resolve home cwd raw
  refine ⟨fun hpath => ?_, hleads.backslash_mem_iff hplace, fun home' cwd' => ?_⟩
  · rw [hleads.eq_of_hasDrive hpath]
    exact backslash_not_mem_map_forwardSlash _
  · have hagain : resolve home' cwd' place = forward place := resolve_of_hasDrive hplace home' cwd'
    exact ⟨hagain, by rw [hagain, forward_eq_self_iff]⟩

/-- A backslash of a relative path stays in a place on a drive until it is resolved once more. -/
theorem backslash_below_drive :
    let place := resolve (some "/home") (some "C:/w//") "src\\main.c"
    hasDrive place.toList = true ∧ hasDrive (dropScheme "src\\main.c".toList) = false ∧
      (∃ base behind,
        Joined (some "/home".toList) (some "C:/w//".toList) "src\\main.c".toList base behind ∧
        (place.toList = join base behind ∨ behind = [] ∧ place.toList = base) ∧
        hasDrive (base ++ ['/']) = true ∧
        ('\\' ∈ place.toList ↔ '\\' ∈ base ∨ '\\' ∈ behind)) ∧
      place = "C:/w/src\\main.c" ∧ resolve (some "/home") none place = "C:/w/src/main.c" ∧
      resolve (some "/home") none place ≠ place := by
  intro place
  have hplace : hasDrive place.toList = true := by decide +kernel
  have hpath : hasDrive (dropScheme "src\\main.c".toList) = false := by decide +kernel
  obtain ⟨-, hjoined, hagain⟩ := drive_place_normal_or_joined hplace
  obtain ⟨hforward, hself⟩ := hagain (some "/home") none
  refine ⟨hplace, hpath, hjoined hpath, by decide +kernel, hforward.trans (by decide +kernel), ?_⟩
  intro h
  exact absurd (hself.mp h) (by decide +kernel)

/-- A directory on a drive keeps its backslash when a path is joined to it, and the place changes
when it is resolved once more. -/
theorem directory_keeps_backslash :
    let place := resolve (some "/home") (some "C:\\work") "src/x.go"
    place = "C:\\work/src/x.go" ∧ hasDrive place.toList = true ∧ '\\' ∈ place.toList ∧
      resolve (some "/home") (some "C:\\work") place ≠ place := by
  decide +kernel

end TraceScan.Path
