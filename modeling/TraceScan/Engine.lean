import TraceScan.LocationIndex
import TraceScan.Matching
import TraceScan.RollingView

/-!
# The engine

An engine holds a configuration, the registry that was set up from it, the index of the locations
found so far, and what it knows of each stream of output: the view of its latest lines and the
position of the line that comes next.
-/

namespace TraceScan

/-- What an engine knows of a stream of output. -/
structure StreamState where
  /-- The position of the next line. -/
  next : Nat
  view : RollingView
  deriving DecidableEq, Repr

/-- A stream of which no line has come. -/
def StreamState.fresh (capacity : Nat) : StreamState :=
  ⟨1, { capacity := capacity }⟩

/-- An engine. -/
structure Engine where
  /-- The home directory that `~` stands for, if there is one. -/
  home : Option String
  config : Config := {}
  registry : Registry := {}
  index : LocationIndex := {}
  streams : PositionMap StreamState := {}

namespace Engine

/-! ## Set-up -/

/-- Rebuilds the registry from a configuration. The index and the streams stay as they are. -/
def setUp (e : Engine) (config : Config) : Engine × SetupReport :=
  let (registry, report) := e.registry.setUp config
  ({ e with config := config, registry := registry }, report)

/-- A new engine that is set up with a configuration. -/
def ofConfig (home : Option String) (config : Config) : Engine × SetupReport :=
  setUp { home := home } config

/-- Switches the engine on or off. -/
def setEnabled (e : Engine) (enabled : Bool) : Engine :=
  { e with config := { e.config with enabled := enabled } }

/-- The matcher for the registered grammars. -/
def matcher (e : Engine) : Matcher :=
  ⟨e.registry.ordered, e.config.contextWindow, e.home⟩

/-! ## Streams -/

/-- What an engine knows of a stream, be it only that no line has come. -/
def stateOf (e : Engine) (s : StreamId) : StreamState :=
  (e.streams.get? s).getD (.fresh e.config.bufferSize)

/-- The last lines of a stream, which are context for the next chunk. -/
def lead (e : Engine) (s : StreamId) : List String :=
  (e.stateOf s).view.tail e.config.contextWindow

/-- The engine after the visible lines of a buffer with the locations in them. With a stream, the
buffer replaces the view of that stream and the locations are stored. -/
def keepBuffer (e : Engine) (stream : Option StreamId) (visibleLines : List String)
    (found : List Location) : Engine :=
  match stream with
  | none => e
  | some s =>
    let view := (StreamState.fresh e.config.bufferSize).view.extend visibleLines
    { e with
      streams := e.streams.insert s ⟨visibleLines.length + 1, view⟩
      index := e.index.storeAll s found }

/-- The engine after visible lines that were added to a stream, with the locations in them. -/
def keepChunk (e : Engine) (s : StreamId) (visibleLines : List String) (found : List Location) :
    Engine :=
  let view := ((e.stateOf s).view.resize e.config.bufferSize).extend visibleLines
  { e with
    streams := e.streams.insert s ⟨(e.stateOf s).next + visibleLines.length, view⟩
    index := e.index.storeAll s found }

/-! ## Finding locations -/

/-- The location that a line of output names on its own. -/
def matchLine (e : Engine) (line : String) (cwd : Option String) : Option Location :=
  if e.config.enabled then e.matcher.matchLine line cwd else none

/-- The locations in a whole buffer of output. -/
def scan (e : Engine) (lines : List String) (cwd : Option String) (stream : Option StreamId) :
    Engine × List Location :=
  if !e.config.enabled || lines.isEmpty then (e, [])
  else
    let visibleLines := lines.map strip
    let found := e.matcher.scanFrom visibleLines 0 cwd 1
    (e.keepBuffer stream visibleLines found, found)

/-- The locations in lines that were added to a stream. The latest lines that came before serve as
context; the lines that come later are not known yet. -/
def scanChunk (e : Engine) (stream : StreamId) (chunk : List String) (cwd : Option String) :
    Engine × List Location :=
  if !e.config.enabled || chunk.isEmpty then (e, [])
  else
    let lead := e.lead stream
    let visibleLines := chunk.map strip
    let found :=
      e.matcher.scanFrom (lead ++ visibleLines) lead.length cwd (e.stateOf stream).next
    (e.keepChunk stream visibleLines found, found)

/-! ## Looking up locations -/

/-- The latest lines of a stream. -/
def view? (e : Engine) (stream : StreamId) : Option RollingView :=
  (e.streams.get? stream).map StreamState.view

/-- The location at a position, or the nearest one in range. -/
def locationAt (e : Engine) (stream : StreamId) (position : Nat) : Option Location :=
  (e.index.get? stream position).or (e.index.nearest? stream position e.config.nearestRange)

/-- The location behind a cursor. -/
def next (e : Engine) (stream : StreamId) (cursor : Nat) : Except NavigationError Location :=
  e.index.next stream cursor e.config.wrapNavigation

/-- The location before a cursor. -/
def previous (e : Engine) (stream : StreamId) (cursor : Nat) : Except NavigationError Location :=
  e.index.previous stream cursor e.config.wrapNavigation

/-! ## Forgetting -/

/-- Forgets a stream. -/
def resetStream (e : Engine) (stream : StreamId) : Engine :=
  { e with index := e.index.clear stream, streams := e.streams.erase stream }

/-- Forgets every stream. -/
def clearAll (e : Engine) : Engine :=
  { e with index := {}, streams := {} }

end Engine

end TraceScan
