/-!
# Grammars as they are written

A grammar names the patterns in which one kind of program reports source locations. Each rule says
which group of its pattern holds the path, the line, the column and the enclosing function.
-/

namespace TraceScan

/-- Whether a grammar was added by the user or is part of the library. -/
inductive GrammarClass where
  | custom
  | builtin
  deriving DecidableEq, Repr

/-- The name of a class. -/
def GrammarClass.label : GrammarClass → String
  | custom => "custom"
  | builtin => "builtin"

/-- The class of the given name. -/
def GrammarClass.ofLabel? : String → Option GrammarClass
  | "custom" => some .custom
  | "builtin" => some .builtin
  | _ => none

/-- One pattern of a grammar and the meaning of its groups. -/
structure Rule where
  pattern : String
  pathGroup : Option Nat := none
  lineGroup : Option Nat := none
  columnGroup : Option Nat := none
  contextGroup : Option Nat := none
  deriving DecidableEq, Repr

/-- A way to resolve a path against a working directory, in place of the usual one. -/
abbrev PathHook := String → Option String → Option String

/-- An opinion on whether the line at an index of a window of lines belongs to a grammar. -/
abbrev ContextHook := List String → Nat → Bool

/-- A grammar as it is written, before its patterns have been read. -/
structure Definition where
  name : String := ""
  description : Option String := none
  rules : List Rule := []
  /-- Grammars of higher priority come first within their class. -/
  priority : Int := 0
  isCustom : Bool := false
  resolvePath : Option PathHook := none
  contextMatch : Option ContextHook := none

/-- The class that a definition belongs to. -/
def Definition.grammarClass (d : Definition) : GrammarClass :=
  if d.isCustom then .custom else .builtin

/-- What a rule found in a line. -/
structure Capture where
  path : String
  line : Nat
  column : Option Nat
  context : Option String
  deriving DecidableEq, Repr

end TraceScan
