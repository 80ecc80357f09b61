import TraceScan.Location
import TraceScan.Registry
import TraceScan.VisibleText

/-!
# Matching lines

Finds the grammar that owns a line. Alone, a line belongs to the first grammar that captures it.
In a sequence of lines, the context opinions of all the capturing grammars that share the class of
the first one are asked, and the first grammar that claims the line wins.

Windows are here those of a build whose sums wrap, and positions are numbers without a bound. A
build that checks its sums may stop at either: `TraceScan.Overflow` has the same scans for it.
-/

namespace TraceScan

/-! ## Windows -/

/-- Some lines of a sequence, and where in them the line is that they surround. -/
structure Window where
  lines : List String
  index : Nat
  deriving DecidableEq, Repr

/-- The lines around the line at `index`, at most `width` on each side, in a build whose sums wrap:
the far end of the window is counted in words of 64 bits, so that a sum beyond the largest word
starts again at zero. A build that checks its sums stops there (`Window.checkedAround`); up to the
largest word the two agree. -/
def Window.around (lines : List String) (index width : Nat) : Window :=
  let first := index - width
  let last := min ((index + width) % UInt64.size) (lines.length - 1)
  ⟨(lines.drop first).take (last + 1 - first), index - first⟩

/-! ## Matchers -/

/-- What it takes to match lines: the grammars in the order in which they are tried, the width of
the context window, and the home directory, if there is one. -/
structure Matcher where
  grammars : List Grammar
  window : Nat := 3
  home : Option String

namespace Matcher

/-- The location that a grammar's capture stands for. A hook may decline to resolve a path, which
then stays as it is. -/
def locate (m : Matcher) (g : Grammar) (capture : Capture) (cwd : Option String) (text : String)
    (position : Nat) : Location :=
  { grammar := g.name
    rawPath := capture.path
    path := (g.resolve m.home cwd capture.path).getD capture.path
    line := capture.line
    column := capture.column
    context := capture.context
    position := position
    text := text }

/-- The grammars that capture a line, with what they capture. -/
def candidates (m : Matcher) (line : String) : List (Grammar × Capture) :=
  m.grammars.filterMap fun g => (g.captures line).map (g, ·)

/-- The location that a line of output names on its own. -/
def matchLine (m : Matcher) (line : String) (cwd : Option String) : Option Location :=
  let text := strip line
  if text.isEmpty then none
  else m.grammars.findSome? fun g => (g.captures text).map (m.locate g · cwd text 1)

/-- The candidate that owns a line: the first of the leading class that claims it in `window`, or
else the first of all. A lone candidate is not asked. -/
def choose (window : Window) : List (Grammar × Capture) → Option (Grammar × Capture)
  | [] => none
  | [only] => some only
  | leader :: others =>
    let rivals := (leader :: others).takeWhile (·.1.grammarClass == leader.1.grammarClass)
    some ((rivals.find? (·.1.contextMatch window.lines window.index == some true)).getD leader)

/-- The location that the line at `index` of a sequence of visible lines names, reported for
`position`. -/
def matchInSequence (m : Matcher) (lines : List String) (index : Nat) (cwd : Option String)
    (position : Nat) : Option Location := do
  let line ← lines[index]?
  if line.isEmpty then none
  let (g, capture) ← choose (Window.around lines index m.window) (m.candidates line)
  pure (m.locate g capture cwd line position)

/-! ## Sequences of lines -/

/-- The locations in a sequence of visible lines from `start` on. The line at `start` has position
`first`; the lines before it serve as context only. -/
def scanFrom (m : Matcher) (lines : List String) (start : Nat) (cwd : Option String)
    (first : Nat) : List Location :=
  (List.range (lines.length - start)).filterMap fun i =>
    m.matchInSequence lines (start + i) cwd (first + i)

/-- The locations in a sequence of lines of output. -/
def scan (m : Matcher) (lines : List String) (cwd : Option String) : List Location :=
  m.scanFrom (lines.map strip) 0 cwd 1

end Matcher

end TraceScan
