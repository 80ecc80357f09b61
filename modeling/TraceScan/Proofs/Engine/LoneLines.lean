import TraceScan.Proofs.Engine.Grounding
import TraceScan.Proofs.Registry.SetUpReport

/-!
# Lone lines

A line that comes alone is matched on its own or as a sequence of one line, and the two differ in
how they choose among the grammars that capture it. They agree where no grammar claims a line that
has no other line around it. The opinion of a built-in grammar goes by the lines around a line only,
whatever the line itself holds, so that this is the case for what a set-up registers if the user's
grammars have no opinions: `lone_line_alone_and_in_buffer`.
-/

namespace TraceScan

/-! ## Opinions that go by other lines -/

/-- Whether an opinion on a line goes by the other lines of the window, and claims no line without
any. -/
structure ContextHook.GoesByOthers (hook : ContextHook) : Prop where
  /-- Another line in its place gets the same answer. -/
  set : ∀ (window : List String) (index : Nat) (line : String),
    hook (window.set index line) index = hook window index
  /-- A line alone is not claimed. -/
  lone : ∀ line, hook [line] 0 = false

/-- A marker is looked for in the other lines of the window. -/
theorem windowHas_eq_true_iff {marker : Pattern} {window : List String} {index : Nat} :
    windowHas marker window index = true ↔
      ∃ i line, i ≠ index ∧ window[i]? = some line ∧ marker.occursIn line.toList = true := by
  simp only [windowHas, List.any_eq_true, Prod.exists, List.mem_zipIdx_iff_getElem?,
    Bool.and_eq_true, bne_iff_ne]
  constructor
  · rintro ⟨line, i, hline, hne, hoccurs⟩
    exact ⟨i, line, hne, hline, hoccurs⟩
  · rintro ⟨i, line, hne, hline, hoccurs⟩
    exact ⟨line, i, hline, hne, hoccurs⟩

/-- The opinion that some other line holds a marker goes by the other lines. -/
theorem goesByOthers_windowHas (marker : Pattern) :
    ContextHook.GoesByOthers (windowHas marker) where
  set window index line := by
    rw [Bool.eq_iff_iff, windowHas_eq_true_iff, windowHas_eq_true_iff]
    -- at another place nothing has changed
    have hother : ∀ {i}, i ≠ index → (window.set index line)[i]? = window[i]? := fun hne =>
      List.getElem?_set_ne hne.symm
    constructor
    · rintro ⟨i, other, hne, hline, hoccurs⟩
      exact ⟨i, other, hne, hother hne ▸ hline, hoccurs⟩
    · rintro ⟨i, other, hne, hline, hoccurs⟩
      exact ⟨i, other, hne, (hother hne).trans hline, hoccurs⟩
  lone line := by
    rw [← Bool.not_eq_true, windowHas_eq_true_iff]
    rintro ⟨i, other, hne, hline, -⟩
    obtain ⟨hi, -⟩ := List.getElem?_eq_some_iff.mp hline
    exact hne (Nat.lt_one_iff.mp hi)

/-- Whether a grammar, as it is written, has no opinion or one that goes by the other lines. -/
def Definition.GoesByOthers (d : Definition) : Prop :=
  ∀ hook ∈ d.contextMatch, hook.GoesByOthers

/-- A built-in grammar has no opinion, or looks for a marker. -/
theorem Builtin.contextMatch_cases {d : Definition} (hd : d ∈ all) :
    d.contextMatch = none ∨ ∃ marker, d.contextMatch = some (windowHas marker) := by
  revert d
  simp only [all, List.forall_mem_cons, List.not_mem_nil, IsEmpty.forall_iff, implies_true,
    and_true]
  refine ⟨?_, ?_, ?_, ?_, ?_, ?_, ?_, ?_, ?_, ?_, ?_, ?_, ?_, ?_, ?_, ?_, ?_⟩ <;>
    first
      | exact Or.inl rfl
      | exact Or.inr ⟨_, rfl⟩

/-- The built-in grammars go by the other lines. -/
theorem Builtin.goesByOthers {d : Definition} (hd : d ∈ all) : d.GoesByOthers := by
  intro hook hhook
  rcases contextMatch_cases hd with hnone | ⟨marker, hmarker⟩
  · rw [hnone] at hhook
    cases hhook
  · rw [hmarker, Option.mem_some_iff] at hhook
    exact hhook ▸ goesByOthers_windowHas marker

/-! ## What a set-up registers -/

namespace Registry

/-- A grammar that a request adds is the one that its definition is read as. -/
theorem mem_grammars_serve {state : Registry × SetupReport} {q : Request} {g : Grammar}
    (h : g ∈ (serve state q).1.grammars) :
    g ∈ state.1.grammars ∨ ∃ d, q.definition? = some d ∧ Grammar.compile d = .ok g := by
  cases hd : q.definition? with
  | none =>
    rw [serve_of_none hd] at h
    exact Or.inl h
  | some d =>
    rw [serve_of_some hd, load] at h
    cases hregister : state.1.register d with
    | error _ =>
      rw [hregister] at h
      exact Or.inl h
    | ok r =>
      obtain ⟨g', hg', -, rfl⟩ := register_eq_ok hregister
      rw [hregister] at h
      rcases List.mem_append.mp h with hold | hnew
      · exact Or.inl hold
      · exact Or.inr ⟨d, rfl, List.mem_singleton.mp hnew ▸ hg'⟩

/-- Each grammar is there before some requests, or it is read from the definition of one of them. -/
theorem mem_grammars_foldl_serve {state : Registry × SetupReport} {requests : List Request}
    {g : Grammar} (h : g ∈ (requests.foldl serve state).1.grammars) :
    g ∈ state.1.grammars ∨
      ∃ q ∈ requests, ∃ d, q.definition? = some d ∧ Grammar.compile d = .ok g := by
  induction requests generalizing state with
  | nil => exact Or.inl h
  | cons q requests ih =>
    rcases ih h with hserve | ⟨q', hq', hrest⟩
    · rcases mem_grammars_serve hserve with hold | hnew
      · exact Or.inl hold
      · exact Or.inr ⟨q, List.mem_cons_self, hnew⟩
    · exact Or.inr ⟨q', List.mem_cons_of_mem q hq', hrest⟩

/-- The grammars of a registry that was set up go by the other lines, if the user's grammars have no
opinions. -/
theorem goesByOthers_setUp (r : Registry) {config : Config}
    (hcustom : ∀ d ∈ config.customGrammars, d.contextMatch = none) {g : Grammar}
    (hg : g ∈ (r.setUp config).1.grammars) : g.definition.GoesByOthers := by
  rw [setUp_eq_foldl_serve] at hg
  -- a set-up starts without grammars, so that each one comes from a request
  rcases mem_grammars_foldl_serve hg with hold | ⟨q, hq, d, hd, hcompile⟩
  · cases hold
  have hopinion : g.definition.contextMatch = d.contextMatch := by
    rw [(Grammar.sound_of_compile hcompile).2]
  have hgoes : d.GoesByOthers := by
    cases q with
    | language name =>
      have hfind : Builtin.find? name = some d := hd
      exact Builtin.goesByOthers (List.mem_of_find?_eq_some hfind)
    | custom d' =>
      cases hd
      rcases List.mem_append.mp hq with hq | hq
      · obtain ⟨_, -, hlanguage⟩ := List.mem_map.mp hq
        cases hlanguage
      · obtain ⟨_, hmem, heq⟩ := List.mem_map.mp hq
        cases heq
        intro hook hhook
        have hnone : d'.contextMatch = some hook := hhook
        rw [hcustom d' hmem] at hnone
        cases hnone
  rwa [Definition.GoesByOthers, hopinion]

end Registry

/-! ## Lines without others -/

/-- The window around a line without others is the line. -/
theorem Window.around_lone (line : String) (width : Nat) :
    Window.around [line] 0 width = ⟨[line], 0⟩ := by
  simp [Window.around]

/-- Where nobody claims a line, the leader owns it. -/
theorem owner?_eq_head? {window : Window} {gs : List Grammar}
    (h : ∀ g ∈ gs, g.claims window = false) : owner? window gs = gs.head? := by
  cases gs with
  | nil => rfl
  | cons leader others =>
    have hnone : ((leader :: others).find? fun g =>
        g.grammarClass == leader.grammarClass && g.claims window) = none := by
      rw [List.find?_eq_none]
      intro g hg
      simp [h g hg]
    rw [owner?, hnone, Option.getD_none, List.head?_cons]

/-- A grammar that goes by the other lines does not claim a line without others. -/
theorem Grammar.claims_lone {g : Grammar} (h : g.definition.GoesByOthers) (line : String) :
    g.claims ⟨[line], 0⟩ = false := by
  rw [claims, contextMatch]
  cases hhook : g.definition.contextMatch with
  | none => rfl
  | some hook =>
    rw [Option.map_some, (h hook hhook).lone]
    rfl

namespace Matcher

variable {m : Matcher}

/-- A visible line is located in a sequence of one line as it is on its own. -/
theorem matchInSequence_lone (hgrouped : Grouped m.grammars)
    (hgoes : ∀ g ∈ m.grammars, g.definition.GoesByOthers) (line : String) (cwd : Option String) :
    m.matchInSequence [strip line] 0 cwd 1 = m.matchLine line cwd := by
  rw [m.matchInSequence_eq_bind hgrouped, m.matchLine_eq_bind, List.getElem?_cons_zero,
    Option.bind_some, Window.around_lone, owner?_eq_head?]
  intro g hg
  exact Grammar.claims_lone (hgoes g (List.mem_filter.mp hg).1) _

/-- A scan of one line matches it, at whatever position. -/
theorem scanFrom_singleton (line : String) (cwd : Option String) (first : Nat) :
    m.scanFrom [line] 0 cwd first = (m.matchInSequence [line] 0 cwd first).toList := by
  rw [scanFrom, List.length_singleton, Nat.sub_zero, List.range_one]
  cases h : m.matchInSequence [line] 0 cwd first <;> simp [h]

end Matcher

/-! ## Alone and in a buffer -/

namespace Engine

/-- **Lone lines.** After a set-up whose grammars of the user's have no opinions, whatever its other
settings are, a scan of one line returns the location that the line gets on its own, or nothing if
it gets none, and so does the first chunk of a stream if it is this line. Switching the engine on or
off and other windows make no difference. The opinion of a built-in grammar on a line is the same
for every other line in its place. -/
theorem lone_line_alone_and_in_buffer (r : Registry) (config : Config)
    (hcustom : ∀ d ∈ config.customGrammars, d.contextMatch = none) (e : Engine)
    (he : e.registry = (r.setUp config).1) (line : String) (cwd : Option String) :
    (∀ stream, (e.scan [line] cwd stream).2 = (e.matchLine line cwd).toList) ∧
      (∀ s, e.streams.get? s = none →
        (e.scanChunk s [line] cwd).2 = (e.matchLine line cwd).toList) ∧
      ∀ d ∈ Builtin.all, ∀ hook ∈ d.contextMatch,
        ∀ (window : List String) (index : Nat) (other : String),
          hook (window.set index other) index = hook window index := by
  have hmatch :
      e.matcher.scanFrom [strip line] 0 cwd 1 = (e.matcher.matchLine line cwd).toList := by
    rw [Matcher.scanFrom_singleton, Matcher.matchInSequence_lone]
    · show Grouped e.registry.ordered
      rw [he]
      exact (r.wellFormed_setUp config).grouped_ordered
    · intro g hg
      have hmem : g ∈ e.registry.grammars := Registry.mem_grammars_of_mem_ordered hg
      rw [he] at hmem
      exact r.goesByOthers_setUp hcustom hmem
  refine ⟨fun stream => ?_, fun s hfresh => ?_, fun d hd hook hhook =>
    (Builtin.goesByOthers hd hook hhook).set⟩
  · cases henabled : e.config.enabled with
    | false => simp [e.scan_of_disabled cwd henabled, matchLine, henabled]
    | true =>
      rw [e.scan_snd cwd henabled, matchLine, henabled, if_pos rfl, ← hmatch, List.map_singleton]
  · cases henabled : e.config.enabled with
    | false => simp [e.scanChunk_of_disabled s cwd henabled, matchLine, henabled]
    | true =>
      have hlead : e.lead s = [] := by
        rw [lead, stateOf_of_get?_eq_none hfresh]
        exact List.drop_nil
      rw [e.scanChunk_snd s cwd henabled, hlead, stateOf_of_get?_eq_none hfresh, matchLine,
        henabled, if_pos rfl, ← hmatch, List.map_singleton]
      rfl

/-- A line that Lua and Python capture belongs to Lua, which was asked for first, in a buffer of its
own as it does alone, although it holds a marker of Python. -/
theorem lone_line_with_marker_belongs_to_lua :
    let mine : Definition := { name := "mine", rules := [.of "note (.+)@([0-9]+)" 1 2] }
    let config : Config := { languages := ["lua", "python"], customGrammars := [mine] }
    let e : Engine := ⟨some "/home", config, (Registry.setUp {} config).1, {}, {}⟩
    let line := "x.lua:5 calls a.py:3"
    Builtin.tracebackMarker.occursIn line.toList = true ∧
      ∃ l, l.grammar = "lua" ∧ e.matchLine line none = some l ∧
        (e.scan [line] none none).2 = [l] ∧ (e.scanChunk 1 [line] none).2 = [l] := by
  intro mine config e line
  have hcustom : ∀ d ∈ config.customGrammars, d.contextMatch = none := by
    intro d hd
    rw [List.mem_singleton.mp hd]
  have he : e.registry = (Registry.setUp {} config).1 := by
    dsimp only [e]
  have hfresh : e.streams.get? 1 = none := by
    dsimp only [e]
    rfl
  have hgrammar : (e.matchLine line none).map Location.grammar = some "lua" := by decide +kernel
  obtain ⟨l, hl, hlua⟩ := Option.map_eq_some_iff.mp hgrammar
  obtain ⟨hscan, hchunk, -⟩ := lone_line_alone_and_in_buffer {} config hcustom e he line none
  refine ⟨by decide +kernel, l, hlua, hl, ?_, ?_⟩
  · rw [hscan, hl, Option.toList_some]
  · rw [hchunk 1 hfresh, hl, Option.toList_some]

end Engine

end TraceScan
