import TraceScan.Proofs.Engine.History
import TraceScan.Proofs.Grammar.Captures
import TraceScan.Proofs.Matching.Sequence
import TraceScan.Proofs.VisibleText

/-!
# Locations and their lines

An engine finds locations in a line alone, in a buffer and in a chunk, and in each of them it strips
the lines, tries the grammars and may give a line to another candidate than the first one. None of
this adds anything: a location names a registered grammar and one line that came in, and the rest of
it is read off the visible text of that line. So `locations_are_grounded` says for each of the
three.
-/

namespace TraceScan

/-- Whether no grammar of a registry resolves paths in a way of its own. -/
def Registry.HookFree (r : Registry) : Prop :=
  ∀ g ∈ r.grammars, g.definition.resolvePath = none

/-- The grammars that are tried are registered. -/
theorem Registry.mem_grammars_of_mem_ordered {r : Registry} {g : Grammar} (h : g ∈ r.ordered) :
    g ∈ r.grammars := by
  obtain ⟨i, -, hi⟩ := List.mem_filterMap.mp h
  exact List.mem_of_getElem? hi

/-- Without a hook of its grammar, a captured path leads where paths usually lead. -/
theorem Grammar.resolve_of_resolvePath_eq_none {g : Grammar}
    (h : g.definition.resolvePath = none) (home cwd : Option String) (path : String) :
    g.resolve home cwd path = some (Path.resolve home cwd path) := by
  rw [resolve, h]

namespace Engine

/-- Whether a location is read off the visible text of a line, by a registered grammar and for the
working directory `cwd`. -/
structure Grounds (e : Engine) (cwd : Option String) (line : String) (l : Location) : Prop where
  /-- The text is what is visible of the line, which is something, and without sequences. -/
  text : l.text = strip line
  text_ne : l.text ≠ ""
  sequenceFree : SequenceFree l.text.toList
  grammar : l.grammar ∈ e.registry.names
  /-- The path, the context and the numbers stand in the text. -/
  rawPath : Text.HoldsTrimmed l.text.toList l.rawPath
  line : Text.HoldsNumber l.text.toList l.line
  column : ∀ n ∈ l.column, Text.HoldsNumber l.text.toList n
  context : ∀ name ∈ l.context, Text.HoldsTrimmed l.text.toList name
  /-- The path leads where such a path usually leads. -/
  path : l.path = Path.resolve e.home cwd l.rawPath

variable {e : Engine} {cwd : Option String}

/-- What a grammar of an engine locates is read off the text that it captures. -/
theorem grounds_locate (he : e.registry.HookFree) {g : Grammar} (hg : g ∈ e.matcher.grammars)
    {line : String} (hne : strip line ≠ "") {capture : Capture}
    (hcapture : g.captures (strip line) = some capture) (position : Nat) :
    e.Grounds cwd line (e.matcher.locate g capture cwd (strip line) position) := by
  have hmem : g ∈ e.registry.grammars := Registry.mem_grammars_of_mem_ordered hg
  have htaken : capture.TakenFrom (strip line).toList := Grammar.takenFrom_of_captures hcapture
  refine ⟨rfl, hne, ?_, List.mem_map_of_mem hmem, htaken.path, htaken.line, htaken.column,
    htaken.context, ?_⟩
  · show SequenceFree (strip line).toList
    rw [strip, String.toList_ofList]
    exact sequenceFree_visible _
  · show (g.resolve e.home cwd capture.path).getD capture.path = _
    rw [Grammar.resolve_of_resolvePath_eq_none (he g hmem)]
    rfl

/-- A location that a scan finds behind some lines is read off one of the lines of the scan. -/
theorem exists_grounds_of_mem_scanFrom (he : e.registry.HookFree) {lead lines : List String}
    {first : Nat} {l : Location}
    (hl : l ∈ e.matcher.scanFrom (lead ++ lines.map strip) lead.length cwd first) :
    ∃ i line, l.position = first + i ∧ lines[i]? = some line ∧ e.Grounds cwd line l := by
  obtain ⟨i, hi⟩ := e.matcher.mem_scanFrom.mp hl
  obtain ⟨text, g, capture, htext, hne, hg, hcapture, rfl⟩ :=
    e.matcher.exists_of_matchInSequence hi
  rw [getElem?_lead_append] at htext
  obtain ⟨line, hline, rfl⟩ := Option.map_eq_some_iff.mp htext
  exact ⟨i, line, rfl, hline, grounds_locate he hg hne hcapture _⟩

/-- **Grounding.** Where no grammar has a hook for paths, every location that an engine returns is
read off the line that it stands for, whatever the patterns of the grammars are: the line that was
given alone, the line of the buffer at the position of the location, or the line of the chunk that
has come to this position in its stream. -/
theorem locations_are_grounded {e : Engine} (he : e.registry.HookFree) (cwd : Option String) :
    (∀ line l, e.matchLine line cwd = some l → l.position = 1 ∧ e.Grounds cwd line l) ∧
      (∀ lines stream, ∀ l ∈ (e.scan lines cwd stream).2,
        ∃ i line, l.position = 1 + i ∧ lines[i]? = some line ∧ e.Grounds cwd line l) ∧
      ∀ s chunk, ∀ l ∈ (e.scanChunk s chunk cwd).2,
        ∃ i line, l.position = (e.stateOf s).next + i ∧ chunk[i]? = some line ∧
          e.Grounds cwd line l := by
  refine ⟨?_, ?_, ?_⟩
  · intro line l hl
    cases henabled : e.config.enabled with
    | false => simp [matchLine, henabled] at hl
    | true =>
      rw [matchLine, if_pos henabled] at hl
      obtain ⟨g, capture, hne, hg, hcapture, rfl⟩ := e.matcher.exists_of_matchLine hl
      exact ⟨rfl, grounds_locate he hg hne hcapture 1⟩
  · intro lines stream l hl
    cases henabled : e.config.enabled with
    | false => simp [e.scan_of_disabled cwd henabled] at hl
    | true =>
      rw [e.scan_snd cwd henabled, ← List.nil_append (lines.map strip)] at hl
      exact exists_grounds_of_mem_scanFrom he hl
  · intro s chunk l hl
    cases henabled : e.config.enabled with
    | false => simp [e.scanChunk_of_disabled s cwd henabled] at hl
    | true =>
      rw [e.scanChunk_snd s cwd henabled] at hl
      exact exists_grounds_of_mem_scanFrom he hl

/-- A coloured note in a second chunk, which the grammar gets that does not lead, is read off the
line that has come to its position. -/
theorem coloured_note_is_grounded :
    let e := (notes.run [.scanChunk 4 ["two"] none]).1
    let chunk := ["\x1b[1mtodo:8\x1b[0m\r"]
    e.registry.HookFree ∧
      ((e.scanChunk 4 chunk none).2.map fun l => (l.grammar, l.text)) = [("second", "todo:8")] ∧
      ∀ l ∈ (e.scanChunk 4 chunk none).2, ∃ i line, l.position = (e.stateOf 4).next + i ∧
        chunk[i]? = some line ∧ e.Grounds none line l := by
  intro e chunk
  have hfree : e.registry.HookFree := by
    have hall : (e.registry.grammars.all (·.definition.resolvePath.isNone)) = true := by
      decide +kernel
    simpa [Registry.HookFree] using hall
  exact ⟨hfree, by decide +kernel, (locations_are_grounded hfree none).2.2 4 chunk⟩

end Engine

end TraceScan
