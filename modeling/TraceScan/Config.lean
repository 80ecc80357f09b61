import TraceScan.Grammar.Basic

/-!
# Configuration

What an engine is set up with: the grammars to load, the order of their classes, and the sizes used
by scanning and navigation.
-/

namespace TraceScan

/-- What an engine is set up with. -/
structure Config where
  /-- When false, nothing is found. -/
  enabled : Bool := true
  /-- How many lines of each stream are kept. -/
  bufferSize : Nat := 1000
  /-- The built-in grammars to load; all of them if the list is empty. -/
  languages : List String := []
  /-- The user's grammars, registered after the built-in ones. -/
  customGrammars : List Definition := []
  /-- The classes in the order in which they are tried. -/
  classOrder : List GrammarClass := [.custom, .builtin]
  /-- How many lines on each side of a line are looked at to tell grammars apart. -/
  contextWindow : Nat := 3
  /-- Whether navigation goes on at the other end. -/
  wrapNavigation : Bool := true
  /-- How far a nearest location may be. -/
  nearestRange : Nat := 10

/-- An order of classes without repetitions, and with the classes it lacks behind it. -/
def effectiveOrder (order : List GrammarClass) : List GrammarClass :=
  (order ++ [GrammarClass.custom, GrammarClass.builtin]).foldl
    (fun found c => if found.contains c then found else found ++ [c]) []

end TraceScan
