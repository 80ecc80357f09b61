import TraceScan.Grammar.Basic
import TraceScan.Pattern.Reader

/-!
# Pieces of the built-in grammars

Rules with their groups, the parts of patterns that several grammars share, and the context
opinion that all built-in grammars use: some other line of the window holds a marker.
-/

namespace TraceScan

/-- A rule with a path group and a line group. -/
def Rule.of (pattern : String) (path line : Nat) : Rule :=
  { pattern := pattern, pathGroup := some path, lineGroup := some line }

/-- The rule with a column group. -/
def Rule.column (rule : Rule) (group : Nat) : Rule :=
  { rule with columnGroup := some group }

/-- The rule with a context group. -/
def Rule.context (rule : Rule) (group : Nat) : Rule :=
  { rule with contextGroup := some group }

/-- The pattern that a text denotes; a text that is no pattern matches nothing. -/
def Pattern.ofText (text : String) : Pattern :=
  match Pattern.read text with
  | .ok p => p
  | .error _ => .one .empty

/-- Whether a line of the window other than the one at `index` holds the marker. -/
def windowHas (marker : Pattern) : ContextHook := fun window index =>
  window.zipIdx.any fun (line, i) => i != index && marker.occursIn line.toList

namespace Builtin

/-- An optional drive letter. -/
def drive : String := r"(?:[A-Za-z]:)?"

/-- An optional drive letter, then anything but blanks, colons, parentheses and quotes. -/
def path : String := drive ++ r"[^\s:()'\x22]+"

end Builtin

end TraceScan
