import Mathlib.Data.Bool.AllAny
import TraceScan.Proofs.Grammar.Captures
import TraceScan.Proofs.Grammar.Ownership
import TraceScan.Proofs.Pattern.Frames
import TraceScan.Proofs.Pattern.Literals

/-!
# Frames of scripts

A frame of a JavaScript stack trace names a function and, in parentheses, a file with a line and a
column: `at name (file:line:column)`. The name may hold anything but an opening parenthesis and a
line break, and the path anything but blanks and parentheses, so colons and numbers as well. The
parentheses and the last two colons tell the parts apart, and the JavaScript grammar takes each
frame apart into what was printed.
-/

namespace TraceScan

/-! ## Frames -/

/-- The endings of scripts. -/
def scriptEndings : List String :=
  ["js", "jsx", "ts", "tsx", "cjs", "mjs", "cts", "mts", "vue", "svelte"]

/-- A frame of a function of a script; a mark before its name may say that it was awaited. -/
def scriptFrame (blanks mark function path line column : String) : String :=
  blanks ++ "at " ++ mark ++ function ++ " (" ++ path ++ ":" ++ line ++ ":" ++ column ++ ")"

/-- Whether some texts and numbers make a frame of a script. -/
structure IsScriptFrame (blanks function path line column : String) (n k : Nat) : Prop where
  blanks : ∀ c ∈ blanks.toList, Text.isBlank c = true
  function_ne : function ≠ ""
  function_trimmed : Text.trimmed function = function
  function_chars : ∀ c ∈ function.toList, c ≠ '(' ∧ c ≠ '\n'
  function_plain : ¬ "async ".toList <+: function.toList
  path_chars : ∀ c ∈ path.toList, Text.isBlank c = false ∧ c ≠ '(' ∧ c ≠ ')'
  path_ending : ∃ stem, ∃ ending ∈ scriptEndings, stem ≠ "" ∧ path = stem ++ "." ++ ending
  line : Text.IsNumeral line.toList n ∧ n < UInt32.size
  column : Text.IsNumeral column.toList k ∧ k < UInt32.size

namespace Pattern

/-! ## Patterns -/

/-- The characters of paths in parentheses. -/
def enclosed : CharSet :=
  .compl (.union .blank (.union (.single '(') (.single ')')))

/-- The pattern for the endings of scripts. -/
def scriptEnding : Pattern :=
  alt (seq (alt (one (.union (.single 'c') (.single 'm'))) empty)
      (seq (one (.union (.single 'j') (.single 't')))
        (seq (one (.single 's')) (alt (one (.single 'x')) empty))))
    (oneOf [['v', 'u', 'e'], ['s', 'v', 'e', 'l', 't', 'e']])

/-- The pattern for paths of scripts. -/
def scriptPath : Pattern :=
  seq (alt (literally ['f', 'i', 'l', 'e', ':', '/', '/']) empty)
    (seq (oneOrMore enclosed false) (lead ['.'] scriptEnding))

/-- The pattern for the line and the column of a frame, up to the closing parenthesis. -/
def framePosition : Pattern :=
  lead [':'] (seq (group 3 (oneOrMore .digit true))
    (lead [':'] (seq (group 4 (oneOrMore .digit true)) (literally [')']))))

/-- The pattern for a frame from the name of the function on. -/
def namedFrame : Pattern :=
  seq (group 1 (oneOrMore .inLine false))
    (lead [' ', '('] (seq (group 2 scriptPath) framePosition))

/-- The pattern for frames of functions of scripts. -/
def scriptPattern : Pattern :=
  lead ['a', 't', ' ']
    (seq (alt (literally ['a', 's', 'y', 'n', 'c', ' ']) empty) namedFrame)

/-! ## Paths and positions -/

variable {function path line column : List Char}

/-- The endings of scripts are taken. -/
theorem takes_scriptEnding {ending : String} (h : ending ∈ scriptEndings) :
    scriptEnding.Takes ending.toList := by
  have hall : (scriptEndings.all fun ending => scriptEnding.takes ending.toList) = true := by
    decide +kernel
  exact .of_takes (c := ')') (by decide) (List.all_eq_true.mp hall ending h)

/-- The paths of scripts are taken, also those that start with a scheme. -/
theorem takes_scriptPath {stem ending : List Char} (hne : stem ≠ [])
    (hstem : ∀ c ∈ stem, enclosed.mem c = true) (hending : scriptEnding.Takes ending) :
    scriptPath.Takes (stem ++ '.' :: ending) := by
  -- the scheme is left to the pattern behind it, which takes it as well
  have hscheme : (alt (literally ['f', 'i', 'l', 'e', ':', '/', '/']) empty).Takes [] :=
    fun _ _ _ => Or.inr rfl
  exact hscheme.seq ((takes_oneOrMore hne hstem).seq (takes_lead ['.'] hending))

/-- The text for the line and the column of a frame, with what stands behind the parenthesis. -/
def positionText (line column behind : List Char) : List Char :=
  ':' :: (line ++ ':' :: (column ++ ')' :: behind))

/-- A position is read where digits stand between its colons and its parenthesis. -/
theorem starts_framePosition {text : List Char} (h : framePosition.Starts text) :
    ∃ line column behind, text = positionText line column behind ∧
      (∀ c ∈ line, Text.isDigit c = true) ∧ ∀ c ∈ column, Text.isDigit c = true := by
  obtain ⟨_, rfl, hnumbers⟩ := starts_lead h
  obtain ⟨line, _, rfl, -, hline, hrest⟩ := starts_oneOrMore hnumbers
  obtain ⟨_, rfl, hnumber⟩ := starts_lead hrest
  obtain ⟨column, _, rfl, -, hcolumn, hclose⟩ := starts_oneOrMore hnumber
  obtain ⟨behind, rfl⟩ := starts_literally hclose
  exact ⟨line, column, behind, rfl, hline, hcolumn⟩

/-- The colons and the parenthesis of a position do not stand among digits. -/
theorem not_mem_of_isDigit {ds : List Char} (h : ∀ c ∈ ds, Text.isDigit c = true) :
    ':' ∉ ds ∧ ')' ∉ ds := by
  constructor
  · intro hmem
    exact absurd (h ':' hmem) (by decide)
  · intro hmem
    exact absurd (h ')' hmem) (by decide)

/-- What stands before a position is known, if it ends at the first closing parenthesis. -/
theorem eq_of_append_positionText {path' line' column' behind behind' : List Char}
    (h : path ++ positionText line column behind = path' ++ positionText line' column' behind')
    (hpath : ')' ∉ path) (hpath' : ')' ∉ path')
    (hline : ∀ c ∈ line, Text.isDigit c = true) (hline' : ∀ c ∈ line', Text.isDigit c = true)
    (hcolumn : ∀ c ∈ column, Text.isDigit c = true)
    (hcolumn' : ∀ c ∈ column', Text.isDigit c = true) : path = path' := by
  obtain ⟨hcolon, hclose⟩ := not_mem_of_isDigit hline
  obtain ⟨hcolon', hclose'⟩ := not_mem_of_isDigit hline'
  obtain ⟨hcolonColumn, hcloseColumn⟩ := not_mem_of_isDigit hcolumn
  obtain ⟨hcolonColumn', hcloseColumn'⟩ := not_mem_of_isDigit hcolumn'
  have hcut : ((path ++ ':' :: line) ++ ':' :: column) ++ ')' :: behind =
      ((path' ++ ':' :: line') ++ ':' :: column') ++ ')' :: behind' := by
    simpa [positionText] using h
  -- the first parenthesis, then the last colon, then the colon before it
  have hfront :
      (path ++ ':' :: line) ++ ':' :: column = (path' ++ ':' :: line') ++ ':' :: column' := by
    rcases append_cut_cases (by simp [hpath, hclose, hcloseColumn]) hcut with
      ⟨heq, -⟩ | ⟨more, heq, -⟩
    · exact heq.symm
    · have hmem : ')' ∈ (path' ++ ':' :: line') ++ ':' :: column' := by
        rw [heq]
        simp
      simp [hpath', hclose', hcloseColumn'] at hmem
  obtain ⟨hfront, -⟩ := eq_of_append_cut hcolonColumn hcolonColumn' hfront
  exact (eq_of_append_cut hcolon hcolon' hfront).1

/-! ## Runs -/

/-- The groups for the line and the column of a frame. -/
def positionGroups (line column : List Char) : List (Nat × Extent) :=
  [(4, ⟨column ++ [')'], [')']⟩), (3, ⟨line ++ ':' :: (column ++ [')']), ':' :: (column ++ [')'])⟩)]

/-- The line and the column of a frame go to the third and the fourth group. -/
theorem run_framePosition (hline : Text.IsDigits line) (hcolumn : Text.IsDigits column)
    (before : List Char) (groups : List (Nat × Extent)) :
    ∃ before', run framePosition some ⟨before, positionText line column [], groups⟩ =
      some ⟨before', [], positionGroups line column ++ groups⟩ := by
  have hdigit : ∀ {ds}, Text.IsDigits ds → ∀ c ∈ ds, CharSet.digit.mem c = true :=
    fun hds c hc => Text.isDigit_of_isPlainDigit (hds.2 c hc)
  obtain ⟨hcolon, -⟩ := not_mem_of_isDigit (hdigit hline)
  obtain ⟨-, hclose⟩ := not_mem_of_isDigit (hdigit hcolumn)
  refine ⟨')' :: (column.reverse ++ ':' :: (line.reverse ++ ':' :: before)), ?_⟩
  calc
    run framePosition some ⟨before, positionText line column [], groups⟩
      = run (seq (group 3 (oneOrMore .digit true)) (lead [':']
          (seq (group 4 (oneOrMore .digit true)) (literally [')'])))) some
          ⟨':' :: before, line ++ ':' :: (column ++ [')']), groups⟩ := run_lead [':'] _ _ _ _ _
    _ = run (lead [':'] (seq (group 4 (oneOrMore .digit true)) (literally [')']))) some _ :=
      run_group_before (by decide) (fun _ => head?_of_starts_lead) hcolon
        (takes_oneOrMore hline.1 (hdigit hline)) _ _ _ _
    _ = run (seq (group 4 (oneOrMore .digit true)) (literally [')'])) some _ :=
      run_lead [':'] _ _ _ _ _
    _ = run (literally [')']) some _ :=
      run_group_before (by decide) (fun _ => head?_of_starts_literally) hclose
        (takes_oneOrMore hcolumn.1 (hdigit hcolumn)) _ _ _ _
    _ = some _ := run_literally [')'] _ _ _ _

/-- Whether some texts make a frame from the name of the function on. -/
structure IsNamedFrame (function path line column : List Char) : Prop where
  function_ne : function ≠ []
  function_chars : ∀ c ∈ function, c ≠ '(' ∧ c ≠ '\n'
  path_chars : ∀ c ∈ path, c ≠ '(' ∧ c ≠ ')'
  path_takes : scriptPath.Takes path
  line : Text.IsDigits line
  column : Text.IsDigits column

/-- The text of a frame behind the name of the function. -/
def behindName (path line column : List Char) : List Char :=
  path ++ positionText line column []

/-- No parenthesis opens behind the name of a function but the one around the path. -/
theorem IsNamedFrame.not_mem (h : IsNamedFrame function path line column) :
    '(' ∉ behindName path line column := by
  have hdigits : ∀ {ds}, Text.IsDigits ds → '(' ∉ ds :=
    fun hds hmem => absurd (hds.2 '(' hmem) (by decide)
  have hpath : '(' ∉ path := fun hmem => (h.path_chars '(' hmem).1 rfl
  simp [behindName, positionText, hpath, hdigits h.line, hdigits h.column]

/-- The name of a function is known, since one parenthesis opens behind it. -/
theorem IsNamedFrame.eq_of_append (h : IsNamedFrame function path line column)
    {name rest : List Char}
    (hcut : function ++ [' ', '('] ++ behindName path line column = name ++ [' ', '('] ++ rest) :
    name = function := by
  have hopen : '(' ∉ function ++ [' '] := by
    intro hmem
    rcases List.mem_append.mp hmem with hmem | hmem
    · exact (h.function_chars '(' hmem).1 rfl
    · simp at hmem
  have hcut' : (function ++ [' ']) ++ '(' :: behindName path line column =
      (name ++ [' ']) ++ '(' :: rest := by
    simpa using hcut
  rcases append_cut_cases hopen hcut' with ⟨heq, -⟩ | ⟨more, -, hrest⟩
  · exact List.append_cancel_right heq
  · exact absurd (hrest ▸ List.mem_append_right more List.mem_cons_self) h.not_mem

/-- What can be read as a frame has a name before the parenthesis. -/
theorem starts_namedFrame {text : List Char} (h : namedFrame.Starts text) :
    ∃ name rest, text = name ++ [' ', '('] ++ rest := by
  obtain ⟨name, _, rfl, -, -, hbehind⟩ := starts_oneOrMore h
  obtain ⟨rest, rfl, -⟩ := starts_lead hbehind
  exact ⟨name, rest, by simp⟩

/-- The groups of a frame of a script. -/
def scriptGroups (function path line column : List Char) : List (Nat × Extent) :=
  positionGroups line column ++
    [(2, ⟨behindName path line column, positionText line column []⟩),
      (1, ⟨function ++ ([' ', '('] ++ behindName path line column),
        [' ', '('] ++ behindName path line column⟩)]

/-- The texts of the groups of a frame of a script. -/
theorem group?_scriptGroups (function path line column before : List Char) :
    let found : Place := ⟨before, [], scriptGroups function path line column⟩
    found.group? 1 = some function ∧ found.group? 2 = some path ∧ found.group? 3 = some line ∧
      found.group? 4 = some column :=
  ⟨congrArg some (text_extent_append function _), congrArg some (text_extent_append path _),
    congrArg some (text_extent_append line _), congrArg some (text_extent_append column _)⟩

/-- The name of the function goes to the first group and the path to the second one. -/
theorem run_namedFrame (h : IsNamedFrame function path line column) (before : List Char) :
    ∃ before', run namedFrame some
      ⟨before, function ++ ([' ', '('] ++ behindName path line column), []⟩ =
        some ⟨before', [], scriptGroups function path line column⟩ := by
  let start := [' ', '('].reverse ++ (function.reverse ++ before)
  obtain ⟨before', hposition⟩ := run_framePosition h.line h.column (path.reverse ++ start)
    [(2, ⟨behindName path line column, positionText line column []⟩),
      (1, ⟨function ++ ([' ', '('] ++ behindName path line column),
        [' ', '('] ++ behindName path line column⟩)]
  have hname : ∀ c ∈ function, CharSet.inLine.mem c = true :=
    fun c hc => CharSet.mem_inLine.mpr (h.function_chars c hc).2
  have hclose : ')' ∉ path := fun hmem => (h.path_chars ')' hmem).2 rfl
  have hdigit : ∀ {ds}, Text.IsDigits ds → ∀ c ∈ ds, Text.isDigit c = true :=
    fun hds c hc => Text.isDigit_of_isPlainDigit (hds.2 c hc)
  refine ⟨before', ?_⟩
  calc
    _ = run (lead [' ', '('] (seq (group 2 scriptPath) framePosition)) some
          ⟨function.reverse ++ before, [' ', '('] ++ behindName path line column, _⟩ := by
      refine run_group_of_unique (c := '\n') (by decide) (takes_oneOrMore h.function_ne hname) ?_
        _ _ _
      intro name behind hcut _ _ hbehind
      obtain ⟨rest, rfl, -⟩ := starts_lead hbehind
      exact h.eq_of_append (by simpa using hcut)
    _ = run (seq (group 2 scriptPath) framePosition) some
          ⟨start, behindName path line column, _⟩ := run_lead _ _ _ _ _ _
    _ = run framePosition some ⟨path.reverse ++ start, positionText line column [], _⟩ := by
      refine run_group_of_unique (c := ')') (by decide) h.path_takes ?_ _ _ _
      intro path' behind hcut hclose' _ hbehind
      obtain ⟨line', column', rest, rfl, hline', hcolumn'⟩ := starts_framePosition hbehind
      exact (eq_of_append_positionText hcut hclose hclose' (hdigit h.line) hline'
        (hdigit h.column) hcolumn').symm
    _ = some ⟨before', [], scriptGroups function path line column⟩ := hposition

/-- The mark before the name of a function is read where it stands, and nowhere else. -/
theorem run_marked (h : IsNamedFrame function path line column)
    (hplain : ¬ ['a', 's', 'y', 'n', 'c', ' '] <+: function) {mark : List Char}
    (hmark : mark = [] ∨ mark = ['a', 's', 'y', 'n', 'c', ' ']) (before : List Char) :
    ∃ before', run (seq (alt (literally ['a', 's', 'y', 'n', 'c', ' ']) empty) namedFrame) some
      ⟨before, mark ++ (function ++ ([' ', '('] ++ behindName path line column)), []⟩ =
        some ⟨before', [], scriptGroups function path line column⟩ := by
  rcases hmark with rfl | rfl
  · obtain ⟨before', hrun⟩ := run_namedFrame h before
    have hnone : run (seq (literally ['a', 's', 'y', 'n', 'c', ' ']) namedFrame) some
        ⟨before, function ++ ([' ', '('] ++ behindName path line column), []⟩ = none := by
      refine run_eq_none_of_not_starts (fun hstarts => hplain ?_) _ _ _
      -- with the mark in front, another name would stand before the parenthesis
      obtain ⟨_, htext, hname⟩ := starts_literally_seq hstarts
      obtain ⟨name, rest, rfl⟩ := starts_namedFrame hname
      have hcut : function ++ [' ', '('] ++ behindName path line column =
          (['a', 's', 'y', 'n', 'c', ' '] ++ name) ++ [' ', '('] ++ rest := by simpa using htext
      exact ⟨name, h.eq_of_append hcut⟩
    refine ⟨before', ?_⟩
    rw [run, run, show run (literally ['a', 's', 'y', 'n', 'c', ' ']) (run namedFrame some)
      ⟨before, [] ++ (function ++ ([' ', '('] ++ behindName path line column)), []⟩ = none
      from hnone]
    exact hrun
  · obtain ⟨before', hrun⟩ := run_namedFrame h (['a', 's', 'y', 'n', 'c', ' '].reverse ++ before)
    refine ⟨before', ?_⟩
    rw [run]
    refine run_alt_left ?_
    rw [run_literally]
    exact hrun

/-- **Frames.** The parts of a frame of a script go to the groups, whether its name is marked or
not. -/
theorem search_scriptPattern {blanks : List Char} (hblanks : ∀ c ∈ blanks, Text.isBlank c = true)
    (h : IsNamedFrame function path line column)
    (hplain : ¬ ['a', 's', 'y', 'n', 'c', ' '] <+: function) {mark : List Char}
    (hmark : mark = [] ∨ mark = ['a', 's', 'y', 'n', 'c', ' ']) :
    ∃ before, scriptPattern.search (blanks ++ (['a', 't', ' '] ++
      (mark ++ (function ++ ([' ', '('] ++ behindName path line column))))) =
        some ⟨before, [], scriptGroups function path line column⟩ := by
  have hfirst : 'a' ∉ blanks := fun hmem => absurd (hblanks 'a' hmem) (by decide)
  obtain ⟨before, hrun⟩ := run_marked h hplain hmark
    (['a', 't', ' '].reverse ++ (blanks.reverse ++ []))
  refine ⟨before, ?_⟩
  rw [search, scriptPattern, searchFrom_lead hfirst]
  refine searchFrom_of_run ?_
  rw [run_lead]
  exact hrun

end Pattern

/-! ## Captures -/

/-- The rule for frames of scripts. -/
def scriptRule : CompiledRule :=
  ⟨Pattern.scriptPattern, 2, 3, some 4, some 1⟩

variable {blanks mark function path line column : String} {n k : Nat}

/-- The characters of a frame of a script. -/
theorem toList_scriptFrame (blanks mark function path line column : String) :
    (scriptFrame blanks mark function path line column).toList =
      blanks.toList ++ (['a', 't', ' '] ++ (mark.toList ++ (function.toList ++ ([' ', '('] ++
        Pattern.behindName path.toList line.toList column.toList)))) := by
  simp [scriptFrame, Pattern.behindName, Pattern.positionText]

/-- The parts of a frame of a script can be read from the name of the function on. -/
theorem IsScriptFrame.isNamedFrame (h : IsScriptFrame blanks function path line column n k) :
    Pattern.IsNamedFrame function.toList path.toList line.toList column.toList where
  function_ne := by simpa using h.function_ne
  function_chars := h.function_chars
  path_chars c hc := (h.path_chars c hc).2
  path_takes := by
    obtain ⟨stem, ending, hending, hne, rfl⟩ := h.path_ending
    have hstem : ∀ c ∈ stem.toList, Pattern.enclosed.mem c = true := by
      intro c hc
      obtain ⟨hblank, hopen, hclose⟩ := h.path_chars c (by simp [hc])
      simp [Pattern.enclosed, CharSet.mem, ← Bool.not_eq_true, CharSet.mem_single, hblank, hopen,
        hclose]
    have htakes := Pattern.takes_scriptPath (by simpa using hne) hstem
      (Pattern.takes_scriptEnding hending)
    simpa using htakes
  line := h.line.1.digits
  column := h.column.1.digits

/-- The rule for frames captures what a frame says. -/
theorem capture_scriptFrame (h : IsScriptFrame blanks function path line column n k)
    (hmark : mark = "" ∨ mark = "async ") :
    scriptRule.capture (scriptFrame blanks mark function path line column).toList =
      some ⟨path, n, some k, some function⟩ := by
  have hmarkChars : mark.toList = [] ∨ mark.toList = ['a', 's', 'y', 'n', 'c', ' '] := by
    rcases hmark with rfl | rfl
    · exact Or.inl rfl
    · exact Or.inr rfl
  obtain ⟨before, hsearch⟩ :=
    Pattern.search_scriptPattern h.blanks h.isNamedFrame h.function_plain hmarkChars
  obtain ⟨hfunction, hpath, hline, hcolumn⟩ :=
    Pattern.group?_scriptGroups function.toList path.toList line.toList column.toList before
  have htrimPath : Text.trim path.toList = path.toList :=
    Text.trim_eq_self fun c hc => (h.path_chars c hc).1
  have htrimFunction : Text.trim function.toList = function.toList := by
    simpa [Text.trimmed] using congrArg String.toList h.function_trimmed
  have hnumber : ∀ {s : String} {m : Nat}, Text.IsNumeral s.toList m ∧ m < UInt32.size →
      Text.numeral? Text.largest32 s.toList = some m :=
    fun hm => Text.numeral?_eq_some hm.1 (Nat.le_sub_one_of_lt hm.2)
  have hvisible : Text.trim path.toList ≠ [] := by
    obtain ⟨stem, ending, -, -, hpathText⟩ := h.path_ending
    rw [htrimPath, hpathText]
    simp
  have hname : Text.trim function.toList ≠ [] := by
    rw [htrimFunction]
    simpa using h.function_ne
  have hfound : scriptRule.pattern.search _ = some _ := hsearch
  rw [toList_scriptFrame, CompiledRule.capture_of_found hfound hpath hvisible hline (hnumber h.line)
    hcolumn hfunction, Text.filter_trim (by simpa using hname)]
  simp [htrimPath, htrimFunction, hnumber h.column]

/-- The characters of the patterns of the JavaScript grammar. -/
def spelledJavascript :
    { spelling // Spells (Builtin.javascript.rules.map Rule.pattern) spelling } := by
  apply Subtype.mk
  repeat' first
    | exact List.Forall₂.nil
    | apply List.Forall₂.cons
    | exact rfl
    | apply spell_append

/-- The rule for frames is the first one of the JavaScript grammar. -/
theorem exists_compile_javascript :
    ∃ later, Grammar.compile Builtin.javascript = .ok ⟨Builtin.javascript, scriptRule :: later⟩ :=
  ⟨_, Grammar.compile_eq_ok (by decide) (by decide) (by decide) spelledJavascript.2 rfl⟩

/-- **Frames.** A frame of a script is read back as it was printed, with the path, the line, the
column and the name of the function, whether the name is marked as awaited or not. -/
theorem script_frames_are_read_back (h : IsScriptFrame blanks function path line column n k) :
    ∃ g, Grammar.compile Builtin.javascript = .ok g ∧ ∀ mark, mark = "" ∨ mark = "async " →
      g.captures (scriptFrame blanks mark function path line column) =
        some ⟨path, n, some k, some function⟩ := by
  obtain ⟨later, hcompile⟩ := exists_compile_javascript
  exact ⟨_, hcompile, fun mark hmark => Grammar.captures_of_capture (capture_scriptFrame h hmark)⟩

/-- A path may have a scheme, two endings and numbers of its own. -/
theorem frame_with_numbered_path_is_read_back :
    IsScriptFrame "    " "new async" "file:///app/a.js:12:3.test.mjs" "10" "7" 10 7 ∧
      ∃ g, Grammar.compile Builtin.javascript = .ok g ∧
        g.captures "    at async new async (file:///app/a.js:12:3.test.mjs:10:7)" =
          some ⟨"file:///app/a.js:12:3.test.mjs", 10, some 7, some "new async"⟩ := by
  have hframe :
      IsScriptFrame "    " "new async" "file:///app/a.js:12:3.test.mjs" "10" "7" 10 7 := by
    refine ⟨List.all_iff_forall_prop.mp (by decide), by decide, by decide,
      List.all_iff_forall_prop.mp (by decide), by decide, List.all_iff_forall_prop.mp (by decide),
      ?_, ⟨Text.isNumeral_toString 10, by decide⟩, ⟨Text.isNumeral_toString 7, by decide⟩⟩
    exact ⟨"file:///app/a.js:12:3.test", "mjs", by decide, by decide, by decide⟩
  obtain ⟨g, hcompile, hcaptures⟩ := script_frames_are_read_back hframe
  exact ⟨hframe, g, hcompile, by simpa [scriptFrame] using hcaptures "async " (Or.inr rfl)⟩

end TraceScan
