import TraceScan.Proofs.Engine.History

/-!
# Set-up

A set-up starts the grammars of an engine anew: whatever was registered, unregistered or reordered
before it, the engine then reports, lists and finds what a new engine with the same configuration
does, and goes on to do so in every history. What has come of the streams and was found in them is
as it was. This is `setUp_resets`.
-/

namespace TraceScan

/-- A registry that is set up does not depend on what it was before. -/
theorem Registry.setUp_eq_ofConfig (r : Registry) (config : Config) :
    r.setUp config = ofConfig config :=
  rfl

namespace Engine

/-! ## Engines that are set up alike -/

/-- Two engines have the same home, the same configuration and the same grammars. They may hold
different streams. -/
structure SetUpAlike (a b : Engine) : Prop where
  home : a.home = b.home
  config : a.config = b.config
  registry : a.registry = b.registry

variable {a b : Engine}

/-- Engines that are set up alike match alike. -/
theorem SetUpAlike.matcher_eq (h : SetUpAlike a b) : a.matcher = b.matcher := by
  rw [matcher, matcher, h.home, h.config, h.registry]

/-- An engine stays set up when nothing but the index and the streams change. -/
theorem SetUpAlike.of_fst (h : SetUpAlike a b) {a' b' : Engine}
    (ha : ∃ streams index, a' = { a with streams := streams, index := index })
    (hb : ∃ streams index, b' = { b with streams := streams, index := index }) :
    SetUpAlike a' b' := by
  obtain ⟨streams, index, rfl⟩ := ha
  obtain ⟨streams', index', rfl⟩ := hb
  exact ⟨h.home, h.config, h.registry⟩

/-- **Steps.** Every action keeps engines set up alike. -/
theorem SetUpAlike.act (h : SetUpAlike a b) (action : Action) :
    SetUpAlike (a.act action).1 (b.act action).1 := by
  cases action with
  | setUp config =>
    refine ⟨h.home, rfl, ?_⟩
    exact congrArg (fun r : Registry => (r.setUp config).1) h.registry
  | setEnabled enabled =>
    refine ⟨h.home, ?_, h.registry⟩
    exact congrArg (fun config : Config => { config with enabled := enabled }) h.config
  | changeRegistry change =>
    refine ⟨h.home, h.config, ?_⟩
    exact congrArg (fun r : Registry => r.apply change) h.registry
  | matchLine line cwd => exact h
  | scan lines cwd stream =>
    exact h.of_fst (a.scan_fst lines cwd stream) (b.scan_fst lines cwd stream)
  | scanChunk s chunk cwd =>
    exact h.of_fst (a.scanChunk_fst s chunk cwd) (b.scanChunk_fst s chunk cwd)
  | resetStream s => exact ⟨h.home, h.config, h.registry⟩
  | clearAll => exact ⟨h.home, h.config, h.registry⟩

/-- **Runs.** Every history keeps engines set up alike. -/
theorem SetUpAlike.run (h : SetUpAlike a b) (history : List Action) :
    SetUpAlike (a.run history).1 (b.run history).1 := by
  induction history generalizing a b with
  | nil => exact h
  | cons action history ih => exact ih (h.act action)

/-! ## What can be asked about the grammars -/

/-- All that an engine answers without looking at a stream is answered alike. -/
structure SameGrammars (a b : Engine) : Prop where
  names : a.registry.names = b.registry.names
  ordered : a.registry.ordered = b.registry.ordered
  classOrder : a.registry.classOrder = b.registry.classOrder
  /-- A definition is registered with the same outcome, be it a registry or an error. -/
  register : ∀ d, a.registry.register d = b.registry.register d
  matchLine : ∀ line cwd, a.matchLine line cwd = b.matchLine line cwd
  scan : ∀ lines cwd, (a.scan lines cwd none).2 = (b.scan lines cwd none).2

/-- A line alone is matched alike by engines that are set up alike. -/
theorem SetUpAlike.matchLine_eq (h : SetUpAlike a b) (line : String) (cwd : Option String) :
    a.matchLine line cwd = b.matchLine line cwd := by
  rw [matchLine, matchLine, h.config, h.matcher_eq]

/-- A buffer is scanned alike by engines that are set up alike. -/
theorem SetUpAlike.scan_snd_eq (h : SetUpAlike a b) (lines : List String) (cwd : Option String)
    (stream : Option StreamId) : (a.scan lines cwd stream).2 = (b.scan lines cwd stream).2 := by
  cases henabled : a.config.enabled with
  | false =>
    rw [a.scan_of_disabled cwd henabled, b.scan_of_disabled cwd (h.config ▸ henabled)]
  | true =>
    rw [a.scan_snd cwd henabled, b.scan_snd cwd (h.config ▸ henabled), h.matcher_eq]

/-- Engines that are set up alike answer alike. -/
theorem SetUpAlike.sameGrammars (h : SetUpAlike a b) : SameGrammars a b where
  names := by rw [h.registry]
  ordered := by rw [h.registry]
  classOrder := by rw [h.registry]
  register d := by rw [h.registry]
  matchLine := h.matchLine_eq
  scan lines cwd := h.scan_snd_eq lines cwd none

/-! ## Set-up -/

/-- An engine that is set up is set up like a new one. -/
theorem setUpAlike_setUp (e : Engine) (config : Config) :
    SetUpAlike (e.setUp config).1 (ofConfig e.home config).1 :=
  ⟨rfl, rfl, congrArg Prod.fst (e.registry.setUp_eq_ofConfig config)⟩

/-- **Set-up.** Whatever was done before, a set-up reports what a new engine reports, and in every
history after it the engine has the grammars of the new one and answers with them as it does. All
that is known of the streams, and all that is stored for them, is as it was before. -/
theorem setUp_resets (start : Engine) (before : List Action) (config : Config) :
    let e := (start.run before).1
    let again := e.setUp config
    let new := ofConfig e.home config
    again.2 = new.2 ∧
      (∀ after, SameGrammars (again.1.run after).1 (new.1.run after).1) ∧
      ∀ s, again.1.index.entries s = e.index.entries s ∧ again.1.view? s = e.view? s ∧
        (again.1.stateOf s).next = (e.stateOf s).next := by
  intro e again new
  have hreport : again.2 = new.2 := by
    show (e.registry.setUp config).2 = (Registry.ofConfig config).2
    rw [Registry.setUp_eq_ofConfig]
  refine ⟨hreport, fun after => ((setUpAlike_setUp e config).run after).sameGrammars,
    fun s => ?_⟩
  -- the position of a stream that nothing has come of is no matter of the configuration
  have hnext : (again.1.stateOf s).next = (e.stateOf s).next := by
    rw [next_stateOf, next_stateOf]
    rfl
  exact ⟨rfl, rfl, hnext⟩

end Engine

end TraceScan
