import TraceScan.Report.Basic

/-!
# Scans that stop at an overflow

Two sums of a scan may pass the largest word of 64 bits: the far end of a window, since its width is
whatever the configuration says, and the position of a line, since positions may be counted from
anywhere. `Window.around` and all that is made of it stand for a build in which such a far end
starts again at zero. Here are the same scans in a build that checks its sums: it stops at the first
sum that is no word.
-/

namespace TraceScan

/-! ## Sums of words -/

/-- Two words whose sum is no word. -/
structure Overflow where
  left : Nat
  right : Nat
  deriving DecidableEq, Repr

/-- The sum of two words, if it is one. -/
def checkedSum (left right : Nat) : Except Overflow Nat :=
  if left + right < UInt64.size then .ok (left + right) else .error ⟨left, right⟩

/-! ## Matching -/

/-- The lines around the line at `index`, at most `width` on each side. -/
def Window.checkedAround (lines : List String) (index width : Nat) : Except Overflow Window := do
  let first := index - width
  let last := min (← checkedSum index width) (lines.length - 1)
  pure ⟨(lines.drop first).take (last + 1 - first), index - first⟩

namespace Matcher

/-- The location that the line at `index` of a sequence of visible lines names, reported for
`position`. A window is made only where there are candidates to choose from. -/
def checkedMatchInSequence (m : Matcher) (lines : List String) (index : Nat) (cwd : Option String)
    (position : Nat) : Except Overflow (Option Location) :=
  match lines[index]? with
  | none => .ok none
  | some line =>
    if line.isEmpty then .ok none
    else
      match m.candidates line with
      | [] => .ok none
      | [(g, capture)] => .ok (some (m.locate g capture cwd line position))
      | candidates =>
        (Window.checkedAround lines index m.window).map fun window =>
          (choose window candidates).map fun c => m.locate c.1 c.2 cwd line position

/-- The locations in a sequence of visible lines from `start` on. The line at `start` has position
`first`; the lines before it serve as context only. -/
def checkedScanFrom (m : Matcher) (lines : List String) (start : Nat) (cwd : Option String)
    (first : Nat) : Except Overflow (List Location) :=
  (List.range (lines.length - start)).filterMapM fun i => do
    let position ← checkedSum first i
    m.checkedMatchInSequence lines (start + i) cwd position

/-- The locations in a sequence of lines of output. -/
def checkedScan (m : Matcher) (lines : List String) (cwd : Option String) :
    Except Overflow (List Location) :=
  m.checkedScanFrom (lines.map strip) 0 cwd 1

end Matcher

/-! ## Engines -/

namespace Engine

/-- The locations in a whole buffer of output. -/
def checkedScan (e : Engine) (lines : List String) (cwd : Option String)
    (stream : Option StreamId) : Except Overflow (Engine × List Location) :=
  if !e.config.enabled || lines.isEmpty then .ok (e, [])
  else
    let visibleLines := lines.map strip
    (e.matcher.checkedScanFrom visibleLines 0 cwd 1).map fun found =>
      (e.keepBuffer stream visibleLines found, found)

/-- The locations in lines that were added to a stream. A view counts no further than the position
behind these lines, so that nothing else can pass the largest word. -/
def checkedScanChunk (e : Engine) (stream : StreamId) (chunk : List String)
    (cwd : Option String) : Except Overflow (Engine × List Location) :=
  if !e.config.enabled || chunk.isEmpty then .ok (e, [])
  else do
    let lead := e.lead stream
    let visibleLines := chunk.map strip
    let first := (e.stateOf stream).next
    let _ ← checkedSum first chunk.length
    (e.matcher.checkedScanFrom (lead ++ visibleLines) lead.length cwd first).map fun found =>
      (e.keepChunk stream visibleLines found, found)

/-- Scans a buffer and reports what was found. -/
def checkedScanReport (e : Engine) (lines : List String) (cwd : Option String)
    (stream : Option StreamId) (durationMs : Nat) (timestamp : String) :
    Except Overflow (Engine × Report) :=
  (e.checkedScan lines cwd stream).map fun (e, found) =>
    (e, .ofScan lines.length cwd found durationMs timestamp)

end Engine

end TraceScan
