import TraceScan.Location
import TraceScan.PositionMap

/-!
# The index of locations

The locations that were found in each stream, by position, and the steps from one to the next. A
location stored where there is one already replaces it.
-/

namespace TraceScan

/-- The number of a stream of output. -/
abbrev StreamId := Nat

/-- The locations found in each stream, by position. -/
structure LocationIndex where
  byStream : PositionMap (PositionMap Location) := {}
  deriving DecidableEq, Repr

namespace LocationIndex

/-! ## Look-up -/

/-- The entries of one stream. -/
def stream (index : LocationIndex) (s : StreamId) : PositionMap Location :=
  (index.byStream.get? s).getD {}

/-- The location stored at a position. -/
def get? (index : LocationIndex) (s : StreamId) (position : Nat) : Option Location :=
  (index.stream s).get? position

/-- The location closest to a position, at most `range` away; the earlier of two. -/
def nearest? (index : LocationIndex) (s : StreamId) (position range : Nat) : Option Location :=
  (index.stream s).nearest? position range

/-- The first location behind a position. -/
def after? (index : LocationIndex) (s : StreamId) (position : Nat) : Option Location :=
  (index.stream s).after? position

/-- The last location before a position. -/
def before? (index : LocationIndex) (s : StreamId) (position : Nat) : Option Location :=
  (index.stream s).before? position

/-- The first location of a stream. -/
def first? (index : LocationIndex) (s : StreamId) : Option Location :=
  (index.stream s).first?

/-- The last location of a stream. -/
def last? (index : LocationIndex) (s : StreamId) : Option Location :=
  (index.stream s).last?

/-- The entries of a stream in ascending order of position. -/
def entries (index : LocationIndex) (s : StreamId) : List (Nat × Location) :=
  (index.stream s).entries

/-- The locations of a stream in ascending order of position. -/
def locations (index : LocationIndex) (s : StreamId) : List Location :=
  (index.stream s).values

/-- The number of entries of a stream. -/
def size (index : LocationIndex) (s : StreamId) : Nat :=
  (index.stream s).size

/-- The streams that hold entries, in ascending order. -/
def streams (index : LocationIndex) : List StreamId :=
  (index.byStream.entries.filter (·.2.size != 0)).map Prod.fst

/-! ## Changes -/

/-- Stores a location at a position of a stream, in place of an earlier one. -/
def store (index : LocationIndex) (s : StreamId) (position : Nat) (location : Location) :
    LocationIndex :=
  ⟨index.byStream.insert s ((index.stream s).insert position location)⟩

/-- Stores locations at their own positions, one after the other. -/
def storeAll (index : LocationIndex) (s : StreamId) (locations : List Location) :
    LocationIndex :=
  locations.foldl (fun index l => index.store s l.position l) index

/-- Drops the entries of a stream. -/
def clear (index : LocationIndex) (s : StreamId) : LocationIndex :=
  ⟨index.byStream.erase s⟩

end LocationIndex

/-! ## Navigation -/

/-- Why there is no location to go to. -/
inductive NavigationError where
  | noLocations
  | noMoreLocations
  deriving DecidableEq, Repr

/-- The text of a navigation error. -/
def NavigationError.message : NavigationError → String
  | noLocations => "No stack trace locations"
  | noMoreLocations => "No more stack trace locations"

namespace LocationIndex

/-- The location behind a cursor, or the first one if the search wraps. -/
def next (index : LocationIndex) (s : StreamId) (cursor : Nat) (wrap : Bool) :
    Except NavigationError Location :=
  if index.size s = 0 then .error .noLocations
  else
    match (index.after? s cursor).or (if wrap then index.first? s else none) with
    | some l => .ok l
    | none => .error .noMoreLocations

/-- The location before a cursor, or the last one if the search wraps. -/
def previous (index : LocationIndex) (s : StreamId) (cursor : Nat) (wrap : Bool) :
    Except NavigationError Location :=
  if index.size s = 0 then .error .noLocations
  else
    match (index.before? s cursor).or (if wrap then index.last? s else none) with
    | some l => .ok l
    | none => .error .noMoreLocations

end LocationIndex

end TraceScan
