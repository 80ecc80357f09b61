import TraceScan.Grammar.Basic
import TraceScan.Text.Printable

/-!
# Outlines of definitions

The outline of a definition is one line that names every field with its value. Of the hooks it
tells only whether they are there.
-/

namespace TraceScan

/-- An optional value as an outline shows it. -/
def outlineOption {α : Type} (f : α → String) : Option α → String
  | some a => "Some(" ++ f a ++ ")"
  | none => "None"

/-- A switch as an outline shows it. -/
def outlineBool (b : Bool) : String :=
  if b then "true" else "false"

/-- A record as an outline shows it: its name, and its fields in braces. -/
def outlineRecord (name : String) (fields : List (String × String)) : String :=
  name ++ " \x7b " ++ String.intercalate ", " (fields.map fun f => f.1 ++ ": " ++ f.2) ++ " \x7d"

/-- The outline of a rule. -/
def Rule.outline (rule : Rule) : String :=
  let group := outlineOption fun (n : Nat) => toString n
  outlineRecord "PatternRule" [
    ("pattern", Text.quoted rule.pattern),
    ("path_group", group rule.pathGroup),
    ("line_group", group rule.lineGroup),
    ("column_group", group rule.columnGroup),
    ("context_group", group rule.contextGroup)]

/-- The outline of a definition. -/
def Definition.outline (d : Definition) : String :=
  outlineRecord "ParserDefinition" [
    ("name", Text.quoted d.name),
    ("description", outlineOption Text.quoted d.description),
    ("patterns", "[" ++ String.intercalate ", " (d.rules.map Rule.outline) ++ "]"),
    ("priority", toString d.priority),
    ("is_custom", outlineBool d.isCustom),
    ("resolve_path", outlineBool d.resolvePath.isSome),
    ("is_context_match", outlineBool d.contextMatch.isSome)]

end TraceScan
