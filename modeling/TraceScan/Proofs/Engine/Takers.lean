import TraceScan.Proofs.Engine.Tables
import TraceScan.Proofs.Pattern.Drives

/-!
# All built-in grammars that take a bare diagnostic

Each bare diagnostic has one owner among the built-in grammars, but C++ takes the headers of C as
well. So the table `takers` says, and it is exact: no other grammar captures a bare diagnostic with
an ending of the table, whether it stands alone (`exact_bare`) or behind a drive (`exact_onDrive`).
Behind a drive some grammars keep the drive in the path and the others leave it out (`keepers`).
-/

namespace TraceScan

variable {letter : Char} {ending path line : List Char} {column : Option (List Char)} {n : Nat}
  {m : Option Nat}

/-! ## Rules -/

namespace CompiledRule

variable {r : CompiledRule}

/-- A rule with a pattern that is refuted on drives captures no bare diagnostic behind a drive. -/
theorem capture_of_refutesOnDrive (hr : r.pattern.refutesOnDrive ending = true)
    (h : IsBare ending path line column) (hdrive : OnDrive letter path) :
    r.capture (letter :: ':' :: bareText path line column) = none := by
  rw [capture, Pattern.find_eq_search, Pattern.search_eq_none_of_refutesOnDrive hr h hdrive]
  rfl

/-- A rule that leaves drives out captures the path behind the drive. -/
theorem capture_of_dropsDrive (hr : r.locates ending = true)
    (hdrops : r.pattern.dropsDrive = true) (h : IsDiagnostic ending path line column n m)
    (hdrive : OnDrive letter path) :
    r.capture (letter :: ':' :: bareText path line column) =
      some ⟨String.ofList path, n, m, none⟩ := by
  obtain ⟨before, hsearch⟩ :=
    Pattern.search_of_dropsDrive (pattern_locates hr) hdrops h.isBare hdrive
  exact capture_of_search hr hsearch h.path_ne_nil h.isBlank_of_mem_path h.line h.column

/-- A rule that provides for drives captures the path with the drive. -/
theorem capture_of_keepsDrive (hr : r.locates ending = true)
    (hkeeps : r.pattern.keepsDrive = true) (h : IsDiagnostic ending path line column n m)
    (hdrive : OnDrive letter path) :
    r.capture (letter :: ':' :: bareText path line column) =
      some ⟨String.ofList (letter :: ':' :: path), n, m, none⟩ := by
  obtain ⟨before, hsearch⟩ :=
    Pattern.search_of_keepsDrive (pattern_locates hr) hkeeps h.isBare hdrive
  refine capture_of_search hr hsearch (List.cons_ne_nil _ _) ?_ h.line h.column
  intro c hc
  rcases List.mem_cons.mp hc with rfl | hc
  · exact isBlank_of_isPathChar (isPathChar_of_isPlainLetter hdrive.letter)
  rcases List.mem_cons.mp hc with rfl | hc
  · decide
  · exact h.isBlank_of_mem_path c hc

end CompiledRule

/-! ## Checks -/

namespace EndingCheck

/-- The checks for bare diagnostics. -/
def bare : EndingCheck where
  takes _ ending r := r.locates ending
  refuses ending r := r.pattern.refutes ending

/-- The checks for bare diagnostics behind a drive, which the grammars of some names keep in the
path and the others leave out. -/
def onDrive (keepers : List String) : EndingCheck where
  takes d ending r :=
    r.locates ending &&
      if keepers.contains d.name then r.pattern.keepsDrive else r.pattern.dropsDrive
  refuses ending r := r.pattern.refutesOnDrive ending

/-- A table that is exact behind drives is exact without them. -/
theorem bare_of_onDrive {keepers : List String} {rows : OwnerTable}
    (h : (onDrive keepers).Exact rows) : bare.Exact rows := by
  refine h.imp ?_ fun ending r hr => Pattern.refutes_of_refutesOnDrive hr
  intro d ending r hr
  simp only [onDrive, Bool.and_eq_true] at hr
  exact hr.1

/-- Bare diagnostics are captured as the checks say. -/
theorem reads_bare (h : IsDiagnostic ending path line column n m) :
    bare.Reads ending (bareText path line column) fun _ => ⟨String.ofList path, n, m, none⟩ where
  takes _ _ hr := CompiledRule.capture_of_locates hr h
  refuses _ hr := CompiledRule.capture_of_refutes hr h.isBare

/-- The path that is captured behind a drive by a grammar of some name. -/
def drivePath (keepers : List String) (letter : Char) (path : List Char) (name : String) :
    List Char :=
  if keepers.contains name then letter :: ':' :: path else path

/-- A keeper captures the path with the drive. -/
theorem drivePath_of_mem {keepers : List String} {name : String} (h : name ∈ keepers)
    (letter : Char) (path : List Char) :
    drivePath keepers letter path name = letter :: ':' :: path :=
  if_pos (List.contains_iff_mem.mpr h)

/-- Any other grammar captures the path behind the drive. -/
theorem drivePath_of_not_mem {keepers : List String} {name : String} (h : name ∉ keepers)
    (letter : Char) (path : List Char) : drivePath keepers letter path name = path :=
  if_neg (mt List.contains_iff_mem.mp h)

/-- Bare diagnostics behind a drive are captured as the checks say. -/
theorem reads_onDrive (keepers : List String) (h : IsDiagnostic ending path line column n m)
    (hdrive : OnDrive letter path) :
    (onDrive keepers).Reads ending (letter :: ':' :: bareText path line column) fun d =>
      ⟨String.ofList (drivePath keepers letter path d.name), n, m, none⟩ where
  takes d r hr := by
    simp only [onDrive, Bool.and_eq_true] at hr
    obtain ⟨hlocates, hr⟩ := hr
    rw [drivePath]
    by_cases hkeeper : keepers.contains d.name = true
    · rw [if_pos hkeeper] at hr ⊢
      exact CompiledRule.capture_of_keepsDrive hlocates hr h hdrive
    · rw [if_neg hkeeper] at hr ⊢
      exact CompiledRule.capture_of_dropsDrive hlocates hr h hdrive
  refuses _ hr := CompiledRule.capture_of_refutesOnDrive hr h.isBare hdrive

end EndingCheck

/-! ## The built-in grammars -/

namespace Builtin

/-- The built-in grammars in the order in which they are tried, each with the endings of the bare
diagnostics that it takes. C++ takes the headers of C. -/
def takers : OwnerTable :=
  owners.dropLast ++
    [(cpp, ["h", "cpp", "cc", "cxx", "c++", "hpp", "hh", "hxx", "h++", "ipp", "tpp", "inl"])]

/-- The names of the grammars that keep drives. -/
def keepers : List String :=
  ["go", "c", "cpp"]

/-- The table holds the built-in grammars in the order in which they are tried. -/
theorem map_fst_takers : takers.map Prod.fst = Registry.defaultOrder := rfl

/-- The characters of the table. -/
def spelledTakers : { spellings // List.Forall₂ Spelling.Of takers spellings } := by
  apply Subtype.mk
  repeat' first
    | exact List.Forall₂.nil
    | apply List.Forall₂.cons
    | apply Spelling.Of.mk (s := ⟨_, _⟩)
    | exact rfl
    | apply spell_append

/-- Headers are taken by C and by C++. -/
theorem takersOf_header : takersOf takers "h" = [c, cpp] := rfl

/-- The first grammar that takes an ending is the one that owns it. -/
theorem head?_takersOf : ∀ row ∈ owners, ∀ ending ∈ row.2,
    (takersOf takers ending).head? = some row.1 := by
  simp only [owners, List.forall_mem_cons, List.not_mem_nil, IsEmpty.forall_iff, implies_true,
    and_true, true_and]
  repeat' apply And.intro
  all_goals rfl

/-- **The check.** The table is exact for bare diagnostics behind drives. -/
theorem exact_onDrive : (EndingCheck.onDrive keepers).Exact takers := by
  refine EndingCheck.exact_sound spelledTakers.2 (isNamed_of_map_fst map_fst_takers) ?_
  decide +kernel

/-- The table is exact for bare diagnostics. -/
theorem exact_bare : EndingCheck.bare.Exact takers :=
  EndingCheck.bare_of_onDrive exact_onDrive

end Builtin

/-! ## Texts -/

/-- A path, a line number and perhaps a column number, with colons between them. -/
def diagnostic (path line : String) (column : Option String) : String :=
  path ++ ":" ++ line ++ column.elim "" (":" ++ ·)

/-- The characters of a diagnostic. -/
theorem ofList_bareText (path line : String) (column : Option String) :
    String.ofList (bareText path.toList line.toList (column.map String.toList)) =
      diagnostic path line column := by
  rw [← String.toList_inj, String.toList_ofList]
  cases column <;> simp [bareText, behindLine, diagnostic, String.toList_append]

/-- A diagnostic is not empty. -/
theorem diagnostic_ne_empty (path line : String) (column : Option String) :
    diagnostic path line column ≠ "" := by
  rw [← ofList_bareText]
  simp [bareText]

namespace Builtin

/-- The grammars of the table take each bare diagnostic with their endings. -/
theorem takenBy_bare {ending : String} {d : Definition} (hd : d ∈ takersOf takers ending)
    {path line : String} {column : Option String}
    (h : IsDiagnostic ending.toList path.toList line.toList (column.map String.toList) n m) :
    TakenBy (diagnostic path line column) (takersOf takers ending) fun _ => ⟨path, n, m, none⟩ := by
  have htaken := exact_bare.takenBy map_fst_takers hd (EndingCheck.reads_bare h)
  rwa [ofList_bareText, String.ofList_toList] at htaken

/-- A path of characters of paths with an ending of the table makes a diagnostic. -/
theorem isDiagnostic {owner : Definition} {endings : List String}
    (howner : (owner, endings) ∈ owners) {ending : String} (hending : ending ∈ endings)
    {stem : String} (hne : stem ≠ "") (hstem : ∀ c ∈ stem.toList, isPathChar c = true)
    {line : String} (hline : Text.IsNumeral line.toList n ∧ n < UInt32.size)
    {column : Option String}
    (hcolumn : Option.Rel (fun s k => Text.IsNumeral s.toList k ∧ k < UInt32.size) column m) :
    IsDiagnostic ending.toList (stem ++ "." ++ ending).toList line.toList
      (column.map String.toList) n m := by
  have hpath : (stem ++ "." ++ ending).toList = stem.toList ++ '.' :: ending.toList := by
    simp [String.toList_append]
  refine ⟨⟨stem.toList, by simpa using hne, hpath⟩, ?_, hline, ?_⟩
  · rw [hpath]
    exact isPathChar_of_mem_path howner hending hstem
  · rcases hcolumn with hcolumn | _
    · exact .some hcolumn
    · exact .none

end Builtin

end TraceScan
