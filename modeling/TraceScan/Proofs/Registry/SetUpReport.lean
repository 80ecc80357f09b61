import Mathlib.Data.List.Induction
import TraceScan.Proofs.Registry.Consistency

/-!
# The report of a set-up

A configuration asks for built-in grammars and for grammars of the user's. The set-up takes one
request after the other and reports each of them once: as loaded, or as skipped with the reason
(`Accounts`). The registry then holds the loaded names without the blanks around them, so that the
report tells the registered names just if no loaded name has blanks: `report_exact_iff_trimmed`.
-/

namespace TraceScan

/-! ## Requests -/

/-- What a configuration asks for: the built-in grammar of a language, or a grammar of the user's.
-/
inductive Request where
  | language (name : String)
  | custom (d : Definition)

/-- The name under which a request is reported. -/
def Request.name : Request → String
  | language name => name
  | custom d => d.name

/-- The definition to be registered for a request, if there is one. -/
def Request.definition? : Request → Option Definition
  | language name => Builtin.find? name
  | custom d => some { d with isCustom := true }

/-- The requests of a configuration, in the order in which they are taken. Without a language it
asks for all built-in grammars. -/
def Config.requests (config : Config) : List Request :=
  (if config.languages.isEmpty then Builtin.names else config.languages).map .language ++
    config.customGrammars.map .custom

/-- A request is reported under the name of its definition. -/
theorem Request.name_of_definition? {q : Request} {d : Definition} (h : q.definition? = some d) :
    d.name = q.name := by
  cases q with
  | language name =>
    have hfind : Builtin.find? name = some d := h
    simpa [Request.name] using List.find?_some hfind
  | custom d' =>
    cases h
    rfl

/-- No built-in grammar has blanks around its name. -/
theorem Builtin.trimmed_name {name : String} (h : name ∈ names) : Text.trimmed name = name := by
  revert name
  decide +kernel

/-- A language with a grammar has no blanks around its name. -/
theorem Request.trimmed_language {name : String} {d : Definition}
    (h : (Request.language name).definition? = some d) : Text.trimmed name = name := by
  have hname : d.name = name := Request.name_of_definition? h
  have hfind : Builtin.find? name = some d := h
  refine Builtin.trimmed_name ?_
  rw [← hname, ← Builtin.map_name_all]
  exact List.mem_map_of_mem (List.mem_of_find?_eq_some hfind)

/-! ## Reports -/

/-- Why a request is refused when some names are taken: there is no such built-in grammar, the
definition has a defect, or its name is taken. -/
inductive Refusal (taken : List String) (q : Request) : String → Prop
  | unknown : q.definition? = none → Refusal taken q "unknown built-in language"
  | defect {d : Definition} {error : RegistrationError} : q.definition? = some d →
    Grammar.compile d = .error error → Refusal taken q error.message
  | taken {d : Definition} {g : Grammar} : q.definition? = some d → Grammar.compile d = .ok g →
    g.name ∈ taken → Refusal taken q (RegistrationError.duplicateName g.name).message

/-- Whether a report accounts for some requests: one after the other, each of them is loaded if it
has a sound definition of a new name, and skipped with a reason if it is refused. -/
inductive Accounts : List Request → SetupReport → Prop
  | start : Accounts [] {}
  | loaded {requests : List Request} {report : SetupReport} {q : Request} {d : Definition}
      {g : Grammar} : Accounts requests report → q.definition? = some d →
    Grammar.compile d = .ok g → g.name ∉ report.loaded.map Text.trimmed →
    Accounts (requests ++ [q]) { report with loaded := report.loaded ++ [q.name] }
  | skipped {requests : List Request} {report : SetupReport} {q : Request} {reason : String} :
    Accounts requests report → Refusal (report.loaded.map Text.trimmed) q reason →
    Accounts (requests ++ [q])
      { report with skipped := report.skipped ++ [q.name ++ ": " ++ reason] }

/-- Every request is reported once. -/
theorem Accounts.length {requests : List Request} {report : SetupReport}
    (h : Accounts requests report) :
    report.loaded.length + report.skipped.length = requests.length := by
  induction h with
  | start => rfl
  | loaded _ _ _ _ ih =>
    simp only [List.length_append, List.length_singleton]
    omega
  | skipped _ _ ih =>
    simp only [List.length_append, List.length_singleton]
    omega

/-- What is loaded was asked for and has a definition. -/
theorem Accounts.exists_request {requests : List Request} {report : SetupReport}
    (h : Accounts requests report) {name : String} (hname : name ∈ report.loaded) :
    ∃ q ∈ requests, q.name = name ∧ ∃ d, q.definition? = some d := by
  induction h with
  | start => cases hname
  | @loaded requests report q d g _ hd _ _ ih =>
    rcases List.mem_append.mp hname with hname | hname
    · obtain ⟨q', hq', hrest⟩ := ih hname
      exact ⟨q', List.mem_append_left _ hq', hrest⟩
    · obtain rfl := List.mem_singleton.mp hname
      exact ⟨q, by simp, rfl, d, hd⟩
  | skipped _ _ ih =>
    obtain ⟨q', hq', hrest⟩ := ih hname
    exact ⟨q', List.mem_append_left _ hq', hrest⟩

namespace Registry

/-! ## Set-up, request by request -/

/-- Takes one request of a configuration. -/
def serve (state : Registry × SetupReport) : Request → Registry × SetupReport
  | .language name => loadBuiltin state name
  | .custom d => loadCustom state d

/-- A set-up takes the requests of a configuration one after the other. -/
theorem setUp_eq_foldl_serve (r : Registry) (config : Config) :
    r.setUp config = config.requests.foldl serve
      ({ r.clear with classOrder := effectiveOrder config.classOrder }, {}) := by
  rw [setUp, Config.requests, List.foldl_append, List.foldl_map, List.foldl_map]
  rfl

/-- A request with a definition is loaded under its name. -/
theorem serve_of_some {state : Registry × SetupReport} {q : Request} {d : Definition}
    (h : q.definition? = some d) : serve state q = load state q.name d := by
  cases q with
  | language name =>
    have hfind : Builtin.find? name = some d := h
    rw [serve, loadBuiltin, hfind]
    rfl
  | custom d' =>
    cases h
    rfl

/-- A request without a definition is skipped. -/
theorem serve_of_none {state : Registry × SetupReport} {q : Request} (h : q.definition? = none) :
    serve state q = (state.1, { state.2 with
      skipped := state.2.skipped ++ [q.name ++ ": " ++ "unknown built-in language"] }) := by
  cases q with
  | language name =>
    have hfind : Builtin.find? name = none := h
    rw [serve, loadBuiltin, hfind, Request.name, String.append_assoc]
    rfl
  | custom d => cases h

/-- **Steps.** A request adds to what the report accounts for, and the names in the registry stay
the loaded ones without the blanks around them. -/
theorem accounts_serve {state : Registry × SetupReport} {requests : List Request}
    (hnames : state.1.names = state.2.loaded.map Text.trimmed) (h : Accounts requests state.2)
    (q : Request) :
    (serve state q).1.names = (serve state q).2.loaded.map Text.trimmed ∧
      Accounts (requests ++ [q]) (serve state q).2 := by
  cases hd : q.definition? with
  | none =>
    rw [serve_of_none hd]
    exact ⟨hnames, h.skipped (.unknown hd)⟩
  | some d =>
    rw [serve_of_some hd, load]
    cases hregister : state.1.register d with
    | ok r =>
      obtain ⟨g, hg, hnew, rfl⟩ := register_eq_ok hregister
      have hname : g.name = Text.trimmed q.name := by
        rw [(name_of_compile hg).1, Request.name_of_definition? hd]
      have hfresh : g.name ∉ state.2.loaded.map Text.trimmed := by
        rw [← hnames, ← contains_eq_true_iff_mem_names, hnew]
        exact Bool.false_ne_true
      refine ⟨?_, h.loaded hd hg hfresh⟩
      show (state.1.grammars ++ [g]).map Grammar.name =
        (state.2.loaded ++ [q.name]).map Text.trimmed
      rw [List.map_append, List.map_append, ← hnames, List.map_singleton, List.map_singleton, hname]
      rfl
    | error error =>
      refine ⟨hnames, ?_⟩
      rcases register_eq_error hregister with herror | ⟨g, hg, htaken, rfl⟩
      · exact h.skipped (.defect hd herror)
      · exact h.skipped (.taken hd hg (hnames ▸ htaken))

/-- **Runs.** After all requests the report accounts for them, and tells the names in the registry
but for blanks. -/
theorem accounts_foldl_serve {r : Registry} (hr : r.names = []) (requests : List Request) :
    let state := requests.foldl serve (r, {})
    state.1.names = state.2.loaded.map Text.trimmed ∧ Accounts requests state.2 := by
  induction requests using List.reverseRecOn with
  | nil => exact ⟨hr, .start⟩
  | append_singleton requests q ih =>
    rw [List.foldl_append, List.foldl_cons, List.foldl_nil]
    exact accounts_serve ih.1 ih.2 q

/-! ## What the report tells -/

/-- A name that was loaded is registered just if it has no blanks around it. -/
theorem contains_iff_trimmed {r : Registry} (hr : r.WellFormed) {loaded : List String}
    (hnames : r.names = loaded.map Text.trimmed) {name : String} (hname : name ∈ loaded) :
    r.contains name = true ↔ Text.trimmed name = name := by
  rw [contains_eq_true_iff_mem_names]
  constructor
  · exact fun hmem => (hr.names_proper name hmem).2
  · intro htrimmed
    rw [hnames, ← htrimmed]
    exact List.mem_map_of_mem hname

/-- Names stay the same without the blanks around them just if none has any. -/
theorem eq_map_trimmed_iff {names : List String} :
    names = names.map Text.trimmed ↔ ∀ name ∈ names, Text.trimmed name = name := by
  constructor
  · intro h name hname
    have hsame : names.map id = names.map Text.trimmed := by rwa [List.map_id]
    exact (List.map_inj_left.mp hsame name hname).symm
  · intro h
    rw [List.map_congr_left (g := id) h, List.map_id]

/-- **Reports.** After a set-up with any configuration, the report accounts for every language and
every grammar of the user's that was asked for, each of them once and in order, and the registered
names are the loaded ones without the blanks around them. They are the loaded ones themselves, all
of them registered, just if none of these has blanks, and so whenever no grammar of the user's has.
-/
theorem report_exact_iff_trimmed (r : Registry) (config : Config) :
    let result := r.setUp config
    let report := result.2
    Accounts config.requests report ∧
      report.loaded.length + report.skipped.length =
        (if config.languages.isEmpty then Builtin.names.length else config.languages.length) +
          config.customGrammars.length ∧
      result.1.names = report.loaded.map Text.trimmed ∧
      (report.loaded = result.1.names ↔ ∀ name ∈ report.loaded, Text.trimmed name = name) ∧
      (∀ name ∈ report.loaded, result.1.contains name = true ↔ Text.trimmed name = name) ∧
      ((∀ d ∈ config.customGrammars, Text.trimmed d.name = d.name) →
        report.loaded = result.1.names ∧
          ∀ name ∈ report.loaded, result.1.contains name = true) := by
  intro result report
  obtain ⟨hnames, haccounts⟩ : result.1.names = report.loaded.map Text.trimmed ∧
      Accounts config.requests report := by
    show (r.setUp config).1.names = (r.setUp config).2.loaded.map Text.trimmed ∧
      Accounts config.requests (r.setUp config).2
    rw [setUp_eq_foldl_serve]
    exact accounts_foldl_serve rfl config.requests
  have hcontains : ∀ name ∈ report.loaded,
      (result.1.contains name = true ↔ Text.trimmed name = name) :=
    fun name hname => contains_iff_trimmed (r.wellFormed_setUp config) hnames hname
  have hexact : report.loaded = result.1.names ↔
      ∀ name ∈ report.loaded, Text.trimmed name = name := by
    rw [hnames]
    exact eq_map_trimmed_iff
  refine ⟨haccounts, ?_, hnames, hexact, hcontains, fun hcustom => ?_⟩
  · rw [haccounts.length, Config.requests, List.length_append, List.length_map, List.length_map]
    split <;> rfl
  · -- a language has no blanks around its name in any case
    have hproper : ∀ name ∈ report.loaded, Text.trimmed name = name := by
      intro name hname
      obtain ⟨q, hq, rfl, d, hd⟩ := haccounts.exists_request hname
      cases q with
      | language language => exact Request.trimmed_language hd
      | custom d' =>
        rcases List.mem_append.mp hq with hq | hq
        · obtain ⟨language, -, hlanguage⟩ := List.mem_map.mp hq
          cases hlanguage
        · obtain ⟨d'', hd'', heq⟩ := List.mem_map.mp hq
          cases heq
          exact hcustom d' hd''
    exact ⟨hexact.mpr hproper, fun name hname => (hcontains name hname).mpr (hproper name hname)⟩

/-- A grammar of the user's for lines in log files. -/
def logGrammar (name : String) : Definition where
  name := name
  rules := [.of r"(\S+\.log):(\d+)" 1 2]

/-- Of two requests for one language and one for an unknown language only the first is loaded, and
so is a grammar of the user's whose name has no blanks around it. -/
theorem report_of_repeated_and_unknown_language :
    let config : Config :=
      { languages := ["go", "go", "cobol"], customGrammars := [logGrammar "mine"] }
    let result := setUp {} config
    (result.2.loaded = ["go", "mine"] ∧ result.2.skipped =
        ["go: Parser 'go' is already registered", "cobol: unknown built-in language"]) ∧
      (∀ d ∈ config.customGrammars, Text.trimmed d.name = d.name) ∧
      result.2.loaded = result.1.names ∧
      ∀ name ∈ result.2.loaded, result.1.contains name = true := by
  intro config result
  have hproper : ∀ d ∈ config.customGrammars, Text.trimmed d.name = d.name := by decide +kernel
  obtain ⟨-, -, -, -, -, hexact⟩ := report_exact_iff_trimmed {} config
  refine ⟨?_, hproper, hexact hproper⟩
  decide +kernel

/-- The name of a grammar of the user's is reported with the blanks around it, and no grammar is
registered under that name. -/
theorem report_tells_untrimmed_name :
    let config : Config := { languages := ["go"], customGrammars := [logGrammar " mine "] }
    let result := setUp {} config
    result.2.loaded = ["go", " mine "] ∧ result.1.names = ["go", "mine"] ∧
      result.2.loaded ≠ result.1.names ∧ " mine " ∈ result.2.loaded ∧
      result.1.contains " mine " = false := by
  decide +kernel

end Registry

end TraceScan
