import TraceScan.Proofs.Engine.Takers
import TraceScan.Proofs.Path

/-!
# Drives in the default engine

A path on a drive leads to itself with forward slashes, wherever the program ran. But a grammar may
leave the drive out of the path that it captures, and what is left is another path: one that starts
with a backslash leads into the working directory. So a bare diagnostic names the file on the drive
if and only if its owner keeps drives: `drive_kept_iff_keeper`.
-/

namespace TraceScan

namespace Engine

/-- An engine that was set up by default finds in each bare diagnostic on a drive a location for the
owner of the ending, which keeps the drive or leaves it out. -/
theorem matchLine_onDrive (home cwd : Option String) {owner : Definition}
    {endings : List String} (howner : (owner, endings) ∈ Builtin.owners) {ending : String}
    (hending : ending ∈ endings) {letter : Char} {path line : List Char}
    {column : Option (List Char)} {n : Nat} {k : Option Nat}
    (h : IsDiagnostic ending.toList path line column n k) (hdrive : OnDrive letter path) :
    let text := String.ofList (letter :: ':' :: bareText path line column)
    let captured := String.ofList (EndingCheck.drivePath Builtin.keepers letter path owner.name)
    (ofConfig home {}).1.matchLine text cwd =
      some (Capture.location ⟨captured, n, k, none⟩ owner.name home cwd text 1) := by
  intro text captured
  have hvisible : strip text = text :=
    strip_of_isPathChar_or_colon fun c hc => hdrive.isPathChar_or_colon h.isBare hc
  have hne : text ≠ "" := by simp [text]
  have hfirst : (takersOf Builtin.takers ending).head? = some owner :=
    Builtin.head?_takersOf _ howner ending hending
  have htaken := Builtin.exact_onDrive.takenBy Builtin.map_fst_takers (List.mem_of_head? hfirst)
    (EndingCheck.reads_onDrive Builtin.keepers h hdrive)
  exact matchLine_takenBy htaken hfirst hvisible hne home 3 cwd

/-- **Drives.** Let `X:S` be a path on a drive, of any characters of paths behind the drive and with
an ending of the table. An engine that was set up by default finds a location in `X:S:l` and in
`X:S:l:c`, for the owner of the ending. The location has the path `X:S` and leads to it, with
forward slashes, if and only if the owner keeps drives, as Go, C and C++ do. For any other owner the
path is `S`, which leads where `S` leads alone. -/
theorem drive_kept_iff_keeper (home cwd : Option String) {owner : Definition}
    {endings : List String} (howner : (owner, endings) ∈ Builtin.owners) {ending : String}
    (hending : ending ∈ endings) {letter : Char} {stem : String}
    (hdrive : Path.hasDrive (letter :: ':' :: stem.toList) = true)
    (hstem : ∀ c ∈ stem.toList, isPathChar c = true) {line : String} {n : Nat}
    (hline : Text.IsNumeral line.toList n ∧ n < UInt32.size) {column : Option String}
    {k : Option Nat}
    (hcolumn : Option.Rel (fun s j => Text.IsNumeral s.toList j ∧ j < UInt32.size) column k) :
    let behind := stem ++ "." ++ ending
    let path := String.ofList [letter, ':'] ++ behind
    ∃ loc, (ofConfig home {}).1.matchLine (diagnostic path line column) cwd = some loc ∧
      loc.grammar = owner.name ∧ loc.line = n ∧ loc.column = k ∧ loc.context = none ∧
      (loc.rawPath = path ∧ loc.path = Path.forward path ↔ owner.name ∈ ["go", "c", "cpp"]) ∧
      (owner.name ∉ ["go", "c", "cpp"] →
        loc.rawPath = behind ∧ loc.path = Path.resolve home cwd behind) := by
  intro behind path
  have hbehind : behind.toList = stem.toList ++ '.' :: ending.toList := by
    simp [behind, String.toList_append]
  have hpath : path.toList = letter :: ':' :: behind.toList := by
    simp [path, String.toList_append]
  have hpathDrive : Path.hasDrive path.toList = true := by
    rw [hpath, hbehind]
    exact Path.hasDrive_append hdrive _
  have hne : stem ≠ "" := by
    rintro rfl
    cases hdrive
  have hdiagnostic := Builtin.isDiagnostic howner hending hne hstem hline hcolumn
  have htext : String.ofList (letter :: ':' ::
      bareText behind.toList line.toList (column.map String.toList)) =
        diagnostic path line column := by
    rw [← ofList_bareText, hpath]
    rfl
  have hmatch := matchLine_onDrive home cwd howner hending hdiagnostic
    (.of_hasDrive (hpath ▸ hpathDrive))
  rw [htext] at hmatch
  refine ⟨_, hmatch, rfl, rfl, rfl, rfl, ?_⟩
  by_cases hkeeper : owner.name ∈ Builtin.keepers
  · have hcaptured : String.ofList
        (EndingCheck.drivePath Builtin.keepers letter behind.toList owner.name) = path := by
      rw [EndingCheck.drivePath_of_mem hkeeper, ← hpath, String.ofList_toList]
    rw [hcaptured]
    exact ⟨iff_of_true ⟨rfl, Path.resolve_of_hasDrive hpathDrive home cwd⟩ hkeeper,
      fun h => absurd hkeeper h⟩
  · have hcaptured : String.ofList
        (EndingCheck.drivePath Builtin.keepers letter behind.toList owner.name) = behind := by
      rw [EndingCheck.drivePath_of_not_mem hkeeper, String.ofList_toList]
    have hshorter : behind ≠ path := by
      intro heq
      have hlength := congrArg List.length hpath
      rw [← heq, List.length_cons, List.length_cons] at hlength
      omega
    rw [hcaptured]
    exact ⟨iff_of_false (fun h => hshorter h.1) hkeeper, fun _ => ⟨rfl, rfl⟩⟩

/-- A Go file on a drive is named as a whole. -/
theorem go_keeps_drive :
    let e := (ofConfig (some "/home") {}).1
    ∃ loc, e.matchLine "C:\\x\\a.go:3:5" (some "/w") = some loc ∧ loc.grammar = "go" ∧
      loc.rawPath = "C:\\x\\a.go" ∧ loc.path = "C:/x/a.go" := by
  intro e
  have hrow : (Builtin.go, ["go"]) ∈ Builtin.owners := by
    simp only [Builtin.owners, List.mem_cons, true_or, or_true]
  have hstem : ∀ c ∈ "\\x\\a".toList, isPathChar c = true :=
    List.all_eq_true.mp (by decide +kernel)
  have hcolumn : Option.Rel (fun (s : String) j => Text.IsNumeral s.toList j ∧ j < UInt32.size)
      (some "5") (some 5) := .some ⟨Text.isNumeral_toString 5, by decide⟩
  obtain ⟨loc, hloc, hgrammar, -, -, -, hkept, -⟩ := @drive_kept_iff_keeper (some "/home")
    (some "/w") Builtin.go ["go"] hrow "go" (by simp) 'C' "\\x\\a" (by decide +kernel) hstem "3" 3
    ⟨Text.isNumeral_toString 3, by decide⟩ (some "5") (some 5) hcolumn
  obtain ⟨hraw, hpath⟩ := hkept.mpr (by decide)
  exact ⟨loc, hloc, hgrammar, hraw, hpath.trans (by decide +kernel)⟩

/-- A Python file on a drive loses the drive, and its path leads into the working directory. -/
theorem python_loses_drive :
    let e := (ofConfig (some "/home") {}).1
    Path.hasDrive "C:\\x\\a.py".toList = true ∧
      ∃ loc, e.matchLine "C:\\x\\a.py:3:5" (some "/w") = some loc ∧ loc.grammar = "python" ∧
        loc.rawPath = "\\x\\a.py" ∧ loc.path = "/w/\\x\\a.py" ∧
        loc.rawPath ≠ "C:\\x\\a.py" ∧ loc.path ≠ "C:/x/a.py" := by
  intro e
  have hrow : (Builtin.python, ["py", "pyi"]) ∈ Builtin.owners := by
    simp only [Builtin.owners, List.mem_cons, true_or, or_true]
  have hdiagnostic : IsDiagnostic "py".toList "\\x\\a.py".toList ['3'] (some ['5']) 3 (some 5) :=
    ⟨⟨"\\x\\a".toList, by decide, by decide⟩, List.all_eq_true.mp (by decide +kernel),
      ⟨Text.isNumeral_toString 3, by decide⟩, .some ⟨Text.isNumeral_toString 5, by decide⟩⟩
  have hmatch := matchLine_onDrive (some "/home") (some "/w") hrow List.mem_cons_self hdiagnostic
    (@OnDrive.of_hasDrive 'C' _ (by decide +kernel))
  refine ⟨by decide +kernel, _, hmatch, rfl, ?_, ?_, ?_, ?_⟩
  all_goals decide +kernel

end Engine

end TraceScan
