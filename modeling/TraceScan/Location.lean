/-!
# Locations

A location is a place in a source file that a line of output names, together with where in the
output it was found.
-/

namespace TraceScan

/-- A source location that was found in a line of output. -/
structure Location where
  /-- The name of the grammar that found it. -/
  grammar : String
  /-- The path as it stands in the line. -/
  rawPath : String
  /-- Where the path leads. -/
  path : String
  /-- The line number, counted from 1. -/
  line : Nat
  /-- The column number, counted from 1, if the line names one. -/
  column : Option Nat := none
  /-- The enclosing function, if the line names one. -/
  context : Option String := none
  /-- The position of the line of output, counted from 1. -/
  position : Nat
  /-- The visible text of the line of output. -/
  text : String := ""
  deriving DecidableEq, Repr

namespace Location

/-- The location as `path:line` or `path:line:column`. -/
def label (l : Location) : String :=
  let place := l.path ++ ":" ++ toString l.line
  match l.column with
  | some column => place ++ ":" ++ toString column
  | none => place

/-- The same location at another position of the output. -/
def moveTo (l : Location) (position : Nat) : Location :=
  { l with position := position }

end Location

end TraceScan
