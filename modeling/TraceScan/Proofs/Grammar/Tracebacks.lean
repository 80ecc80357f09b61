import Mathlib.Data.Bool.AllAny
import TraceScan.Proofs.Grammar.Captures
import TraceScan.Proofs.Grammar.Ownership
import TraceScan.Proofs.Pattern.Frames
import TraceScan.Proofs.Pattern.Literals

/-!
# Entries of tracebacks

An entry of a Python traceback names a file between quotes, a line and perhaps the function that the
line is in. The path and the name of the function may be any texts, even such as hold another entry:
the Python grammar takes each entry apart into what was printed, up to blanks at the ends of the
path and the name.
-/

namespace TraceScan

/-! ## Entries -/

/-- An entry of a traceback. -/
def tracebackEntry (blanks path line : String) (function : Option String) : String :=
  blanks ++ "File \"" ++ path ++ "\", line " ++ line ++ function.elim "" (", in " ++ ·)

/-- Whether some texts and a number make an entry of a traceback. -/
structure IsTracebackEntry (blanks path line : String) (n : Nat) (function : Option String) :
    Prop where
  blanks : ∀ c ∈ blanks.toList, Text.isBlank c = true
  visible : ∃ c ∈ path.toList, Text.isBlank c = false
  path : ∀ c ∈ path.toList, c ≠ '"' ∧ c ≠ '<' ∧ c ≠ '>'
  line : Text.IsNumeral line.toList n
  small : n < UInt32.size
  function : ∀ name ∈ function, '\n' ∉ name.toList ∧ ∃ c ∈ name.toList, Text.isBlank c = false

namespace Pattern

/-! ## Patterns -/

/-- The characters of a path between quotes. -/
def quoted : CharSet :=
  .compl (.union (.single '"') (.union (.single '<') (.single '>')))

/-- The pattern for the function of an entry, if it is named. -/
def inFunction : Pattern :=
  alt (lead [',', ' ', 'i', 'n', ' '] (group 3 (oneOrMore .inLine true))) empty

/-- The pattern for entries of tracebacks. -/
def tracebackPattern : Pattern :=
  lead ['F', 'i', 'l', 'e', ' ', '"'] (seq (group 1 (oneOrMore quoted true))
    (lead ['"', ',', ' ', 'l', 'i', 'n', 'e', ' ']
      (seq (group 2 (oneOrMore .digit true)) inFunction)))

/-! ## Runs -/

/-- What stands behind the line number of an entry. -/
def behindNumber : Option (List Char) → List Char
  | none => []
  | some name => [',', ' ', 'i', 'n', ' '] ++ name

/-- The groups that are read behind the line number of an entry. -/
def functionGroup : Option (List Char) → List (Nat × Extent)
  | none => []
  | some name => [(3, ⟨name, []⟩)]

/-- The name of a function is read to the end of the text. -/
theorem run_inFunction {function : Option (List Char)}
    (h : ∀ name ∈ function, '\n' ∉ name ∧ name ≠ []) (before : List Char)
    (groups : List (Nat × Extent)) :
    ∃ before', run inFunction some ⟨before, behindNumber function, groups⟩ =
      some ⟨before', [], functionGroup function ++ groups⟩ := by
  cases function with
  | none => exact ⟨before, rfl⟩
  | some name =>
    obtain ⟨hbreak, hne⟩ := h name rfl
    have hname : ∀ c ∈ name, CharSet.inLine.mem c = true := by
      intro c hc
      exact CharSet.mem_inLine.mpr fun heq => hbreak (heq ▸ hc)
    refine ⟨name.reverse ++ ([',', ' ', 'i', 'n', ' '].reverse ++ before), run_alt_left ?_⟩
    rw [behindNumber, run_lead]
    have hall : run (oneOrMore .inLine true)
        (fun t => some { t with groups := (3, ⟨name, t.rest⟩) :: t.groups })
          ⟨[',', ' ', 'i', 'n', ' '].reverse ++ before, name ++ [], groups⟩ = some _ :=
      run_oneOrMore hne hname (by simp) rfl
    rw [List.append_nil] at hall
    exact hall

/-- What stands behind a number is no digit. -/
theorem isDigit_head?_behindNumber {function : Option (List Char)} :
    ∀ c ∈ (behindNumber function).head?, Text.isDigit c = false := by
  intro c hc
  cases function with
  | none => cases hc
  | some name =>
    obtain rfl : ',' = c := Option.some.inj hc
    decide

variable {blanks path line : List Char} {function : Option (List Char)}

/-- The groups of an entry. -/
def entryGroups (path line : List Char) (function : Option (List Char)) : List (Nat × Extent) :=
  let number := line ++ behindNumber function
  let behindPath := ['"', ',', ' ', 'l', 'i', 'n', 'e', ' '] ++ number
  functionGroup function ++
    [(2, ⟨number, behindNumber function⟩), (1, ⟨path ++ behindPath, behindPath⟩)]

/-- The texts of the groups of an entry. -/
theorem group?_entryGroups (path line before : List Char) (function : Option (List Char)) :
    let found : Place := ⟨before, [], entryGroups path line function⟩
    found.group? 1 = some path ∧ found.group? 2 = some line ∧ found.group? 3 = function := by
  have hpath := congrArg some (text_extent_append path
    (['"', ',', ' ', 'l', 'i', 'n', 'e', ' '] ++ (line ++ behindNumber function)))
  have hline := congrArg some (text_extent_append line (behindNumber function))
  cases function with
  | none => exact ⟨hpath, hline, rfl⟩
  | some name =>
    have hname := congrArg some (text_extent_append name [])
    rw [List.append_nil] at hname
    exact ⟨hpath, hline, hname⟩

/-- **Entries.** The path of an entry goes to the first group, the line number to the second one and
the name of the function to the third one. -/
theorem search_traceback (hblanks : ∀ c ∈ blanks, Text.isBlank c = true)
    (hpath : ∀ c ∈ path, c ≠ '"' ∧ c ≠ '<' ∧ c ≠ '>') (hne : path ≠ []) (hline : Text.IsDigits line)
    (hfunction : ∀ name ∈ function, '\n' ∉ name ∧ name ≠ []) :
    ∃ before, tracebackPattern.search (blanks ++ (['F', 'i', 'l', 'e', ' ', '"'] ++ (path ++
      (['"', ',', ' ', 'l', 'i', 'n', 'e', ' '] ++ (line ++ behindNumber function))))) =
        some ⟨before, [], entryGroups path line function⟩ := by
  let number := line ++ behindNumber function
  let behindPath := ['"', ',', ' ', 'l', 'i', 'n', 'e', ' '] ++ number
  let start := ['F', 'i', 'l', 'e', ' ', '"'].reverse ++ (blanks.reverse ++ [])
  let behindLine := line.reverse ++ (['"', ',', ' ', 'l', 'i', 'n', 'e', ' '].reverse ++
    (path.reverse ++ start))
  have hfirst : 'F' ∉ blanks := fun hmem => absurd (hblanks 'F' hmem) (by decide)
  have hquote : '"' ∉ path := fun hmem => (hpath '"' hmem).1 rfl
  have hquoted : ∀ c ∈ path, quoted.mem c = true := by
    intro c hc
    obtain ⟨hquote, hless, hgreater⟩ := hpath c hc
    simp [quoted, CharSet.mem, ← Bool.not_eq_true, CharSet.mem_single, hquote, hless, hgreater]
  obtain ⟨before, hfunctionRun⟩ := run_inFunction hfunction behindLine
    [(2, ⟨number, behindNumber function⟩), (1, ⟨path ++ behindPath, behindPath⟩)]
  refine ⟨before, ?_⟩
  rw [search, tracebackPattern, searchFrom_lead hfirst]
  refine searchFrom_of_run ?_
  rw [run_lead]
  calc
    _ = run (lead ['"', ',', ' ', 'l', 'i', 'n', 'e', ' ']
          (seq (group 2 (oneOrMore .digit true)) inFunction)) some
          ⟨path.reverse ++ start, behindPath, [(1, ⟨path ++ behindPath, behindPath⟩)]⟩ :=
      run_group_before (by decide) (fun _ => head?_of_starts_lead) hquote
        (takes_oneOrMore hne hquoted) _ _ _ _
    _ = run (oneOrMore .digit true)
          (fun t => run inFunction some { t with groups := (2, ⟨number, t.rest⟩) :: t.groups })
          ⟨_, number, _⟩ := run_lead _ _ _ _ _ _
    _ = some ⟨before, [], entryGroups path line function⟩ :=
      run_takesNumber rfl hline isDigit_head?_behindNumber hfunctionRun

end Pattern

/-! ## Captures -/

/-- The rule for entries of tracebacks. -/
def tracebackRule : CompiledRule :=
  ⟨Pattern.tracebackPattern, 1, 2, none, some 3⟩

variable {blanks path line : String} {n : Nat} {function : Option String}

/-- The characters of an entry. -/
theorem toList_tracebackEntry (blanks path line : String) (function : Option String) :
    (tracebackEntry blanks path line function).toList =
      blanks.toList ++ (['F', 'i', 'l', 'e', ' ', '"'] ++ (path.toList ++
        (['"', ',', ' ', 'l', 'i', 'n', 'e', ' '] ++
          (line.toList ++ Pattern.behindNumber (function.map String.toList))))) := by
  cases function <;> simp [tracebackEntry, Pattern.behindNumber]

/-- The rule for entries captures what an entry says. -/
theorem capture_tracebackEntry (h : IsTracebackEntry blanks path line n function) :
    tracebackRule.capture (tracebackEntry blanks path line function).toList =
      some ⟨Text.trimmed path, n, none, function.map Text.trimmed⟩ := by
  have hne : path.toList ≠ [] := by
    obtain ⟨c, hc, -⟩ := h.visible
    exact List.ne_nil_of_mem hc
  have hnames : ∀ s ∈ function.map String.toList,
      '\n' ∉ s ∧ ∃ c ∈ s, Text.isBlank c = false := by
    intro s hs
    obtain ⟨name, hname, rfl⟩ := Option.map_eq_some_iff.mp hs
    exact h.function name hname
  have hfunction : ∀ s ∈ function.map String.toList, '\n' ∉ s ∧ s ≠ [] := by
    intro s hs
    obtain ⟨hbreak, c, hc, -⟩ := hnames s hs
    exact ⟨hbreak, List.ne_nil_of_mem hc⟩
  obtain ⟨before, hsearch⟩ :=
    Pattern.search_traceback h.blanks h.path hne h.line.digits hfunction
  obtain ⟨hpath, hline, hname⟩ := Pattern.group?_entryGroups path.toList line.toList before
    (function.map String.toList)
  have hnumber := Text.numeral?_eq_some h.line (Nat.le_sub_one_of_lt h.small)
  rw [toList_tracebackEntry]
  have hfound : tracebackRule.pattern.search _ = some _ := hsearch
  rw [CompiledRule.capture_of_found hfound hpath (Text.trim_ne_nil h.visible) hline hnumber rfl
      hname,
    Text.filter_trim fun s hs => Text.trim_ne_nil (hnames s hs).2, Option.map_map, Option.map_map]
  rfl

/-- The characters of the patterns of the Python grammar. -/
def spelledPython :
    { spelling // Spells (Builtin.python.rules.map Rule.pattern) spelling } := by
  apply Subtype.mk
  repeat' first
    | exact List.Forall₂.nil
    | apply List.Forall₂.cons
    | exact rfl

/-- The rule for entries is the first one of the Python grammar. -/
theorem exists_compile_python :
    ∃ later, Grammar.compile Builtin.python = .ok ⟨Builtin.python, tracebackRule :: later⟩ :=
  ⟨_, Grammar.compile_eq_ok (by decide) (by decide) (by decide) spelledPython.2 rfl⟩

/-- **Entries.** An entry of a traceback is read back as it was printed: the path and the name of
the function without the blanks at their ends, the line number, and no column. -/
theorem entries_are_read_back (h : IsTracebackEntry blanks path line n function) :
    ∃ g, Grammar.compile Builtin.python = .ok g ∧
      g.captures (tracebackEntry blanks path line function) =
        some ⟨Text.trimmed path, n, none, function.map Text.trimmed⟩ := by
  obtain ⟨later, hcompile⟩ := exists_compile_python
  exact ⟨_, hcompile, Grammar.captures_of_capture (capture_tracebackEntry h)⟩

/-- The name of a function may look like another entry. -/
theorem entry_in_name_is_read_back :
    IsTracebackEntry "  " "/srv/my app.py:3 " "12" 12 (some "File \"x.py\", line 2, in f") ∧
      ∃ g, Grammar.compile Builtin.python = .ok g ∧
        g.captures "  File \"/srv/my app.py:3 \", line 12, in File \"x.py\", line 2, in f" =
          some ⟨"/srv/my app.py:3", 12, none, some "File \"x.py\", line 2, in f"⟩ := by
  have hentry : IsTracebackEntry "  " "/srv/my app.py:3 " "12" 12
      (some "File \"x.py\", line 2, in f") := by
    refine ⟨List.all_iff_forall_prop.mp (by decide), ⟨'s', by decide, by decide⟩,
      List.all_iff_forall_prop.mp (by decide), Text.isNumeral_toString 12, by decide, ?_⟩
    rintro name ⟨⟩
    exact ⟨by decide, 'F', by decide, by decide⟩
  have hpath : Text.trimmed "/srv/my app.py:3 " = "/srv/my app.py:3" := by decide
  have hname : Text.trimmed "File \"x.py\", line 2, in f" = "File \"x.py\", line 2, in f" := by
    decide
  refine ⟨hentry, ?_⟩
  simpa [tracebackEntry, hpath, hname] using entries_are_read_back hentry

end TraceScan
