import TraceScan.Proofs.Engine.Calls
import TraceScan.Proofs.VisibleText

/-!
# Engines see visible text

Lines come into an engine at three places: alone, as a buffer and as a chunk. Each place strips them
by itself, and behind it nothing of the raw lines is left but how many there are. So an engine does
with stripped lines what it does with the raw ones, in each call (`respond_mapLines_strip`) and
hence in each session (`sessions_see_visible_text`).
-/

namespace TraceScan.Engine

/-! ## Calls with other lines -/

/-- The action with other lines in the places of its own. -/
def Action.mapLines (f : String → String) : Action → Action
  | .matchLine line cwd => .matchLine (f line) cwd
  | .scan lines cwd stream => .scan (lines.map f) cwd stream
  | .scanChunk stream chunk cwd => .scanChunk stream (chunk.map f) cwd
  | .setUp config => .setUp config
  | .setEnabled enabled => .setEnabled enabled
  | .changeRegistry change => .changeRegistry change
  | .resetStream stream => .resetStream stream
  | .clearAll => .clearAll

/-- The call with other lines in the places of its own. -/
def Call.mapLines (f : String → String) : Call → Call
  | .act action => .act (action.mapLines f)
  | .report lines cwd stream durationMs timestamp =>
    .report (lines.map f) cwd stream durationMs timestamp
  | .ask stream question => .ask stream question

/-! ## The places where lines come in -/

/-- A line alone is matched as its visible text is. -/
theorem matchLine_strip (e : Engine) (line : String) (cwd : Option String) :
    e.matchLine (strip line) cwd = e.matchLine line cwd := by
  rw [matchLine, matchLine, Matcher.matchLine, Matcher.matchLine, strip_strip]

/-- A buffer is scanned as its visible text is. -/
theorem scan_map_strip (e : Engine) (lines : List String) (cwd : Option String)
    (stream : Option StreamId) :
    e.scan (lines.map strip) cwd stream = e.scan lines cwd stream := by
  rw [scan, scan, map_strip_map_strip, List.isEmpty_map]

/-- A chunk is scanned as its visible text is. -/
theorem scanChunk_map_strip (e : Engine) (stream : StreamId) (chunk : List String)
    (cwd : Option String) :
    e.scanChunk stream (chunk.map strip) cwd = e.scanChunk stream chunk cwd := by
  rw [scanChunk, scanChunk, map_strip_map_strip, List.isEmpty_map]

/-- A buffer is reported on as its visible text is, with the same statistics. -/
theorem scanReport_map_strip (e : Engine) (lines : List String) (cwd : Option String)
    (stream : Option StreamId) (durationMs : Nat) (timestamp : String) :
    e.scanReport (lines.map strip) cwd stream durationMs timestamp =
      e.scanReport lines cwd stream durationMs timestamp := by
  rw [scanReport, scanReport, scan_map_strip, List.length_map]

/-! ## Calls and sessions -/

/-- An action does with the visible text of its lines what it does with the lines. -/
theorem act_mapLines_strip (e : Engine) (action : Action) :
    e.act (action.mapLines strip) = e.act action := by
  cases action with
  | matchLine line cwd => rw [Action.mapLines, act, act, matchLine_strip]
  | scan lines cwd stream => exact e.scan_map_strip lines cwd stream
  | scanChunk stream chunk cwd => exact e.scanChunk_map_strip stream chunk cwd
  | setUp config => rfl
  | setEnabled enabled => rfl
  | changeRegistry change => rfl
  | resetStream stream => rfl
  | clearAll => rfl

/-- **Calls.** A call with the visible text of its lines leads to the same engine and is answered as
the call with the lines. -/
theorem respond_mapLines_strip (e : Engine) (call : Call) :
    e.respond (call.mapLines strip) = e.respond call := by
  cases call with
  | act action => rw [Call.mapLines, respond, respond, act_mapLines_strip]
  | report lines cwd stream durationMs timestamp =>
    rw [Call.mapLines, respond, respond, scanReport_map_strip]
  | ask stream question => rfl

/-- A session with the visible text of all lines is the session with the lines. -/
theorem session_map_strip (e : Engine) (calls : List Call) :
    e.session (calls.map (Call.mapLines strip)) = e.session calls := by
  induction calls generalizing e with
  | nil => rfl
  | cons call calls ih => rw [List.map_cons, session, session, respond_mapLines_strip, ih]

/-- **Visible input.** Two sessions with an engine whose lines have the same visible texts lead to
the same engine, with the same views, positions and entries, and get the same answers, whatever else
is done and asked in between. In particular the lines may be replaced by their visible text. -/
theorem sessions_see_visible_text (e : Engine) (calls : List Call) :
    e.session (calls.map (Call.mapLines strip)) = e.session calls ∧
      ∀ others : List Call,
        others.map (Call.mapLines strip) = calls.map (Call.mapLines strip) →
          e.session others = e.session calls := by
  refine ⟨e.session_map_strip calls, fun others hsame => ?_⟩
  calc e.session others
      = e.session (others.map (Call.mapLines strip)) := (e.session_map_strip others).symm
    _ = e.session (calls.map (Call.mapLines strip)) := by rw [hsame]
    _ = e.session calls := e.session_map_strip calls

/-- Notes in colour, one of them behind a nested control sequence, are found where the plain ones
are. -/
theorem notes_in_colour :
    let plain : List Call := [.act (.scanChunk 4 ["two", "todo:8"] none), .ask 4 .view,
      .report ["todo:8", "done:9"] (some "/w") (some 7) 0 "now", .ask 7 (.next 1)]
    let coloured : List Call := [
      .act (.scanChunk 4 ["\x1b[1mtwo\r", "todo:\x1b[\x1b[0m31m8\x1b[0m"] none), .ask 4 .view,
      .report ["\x1b[2Ktodo:8", "done\x1b[m:9\r\r"] (some "/w") (some 7) 0 "now",
      .ask 7 (.next 1)]
    notes.session coloured = notes.session plain ∧
      ((notes.session coloured).1.index.locations 4).map Location.text = ["todo:8"] ∧
      ((notes.session coloured).1.index.locations 7).map Location.text = ["todo:8", "done:9"] := by
  intro plain coloured
  have hsame : coloured.map (Call.mapLines strip) = plain.map (Call.mapLines strip) := by
    have hcolours : ["\x1b[1mtwo\r", "todo:\x1b[\x1b[0m31m8\x1b[0m"].map strip =
        ["two", "todo:8"].map strip := by decide +kernel
    have hreturns : ["\x1b[2Ktodo:8", "done\x1b[m:9\r\r"].map strip =
        ["todo:8", "done:9"].map strip := by decide +kernel
    simp only [plain, coloured, List.map_cons, List.map_nil, Call.mapLines, Action.mapLines] at *
    rw [hcolours, hreturns]
  exact ⟨(sessions_see_visible_text notes plain).2 coloured hsame, by decide +kernel,
    by decide +kernel⟩

end TraceScan.Engine
