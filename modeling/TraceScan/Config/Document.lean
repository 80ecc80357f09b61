import TraceScan.Config
import TraceScan.Document.Basic

/-!
# Configurations as documents

How configurations and the grammars in them are written as documents, and read from them. Every
setting may be left out; a pattern may not.
-/

namespace TraceScan

/-! ## Writing -/

/-- A rule as a document. The path and line groups are always written. -/
def Rule.toDocument (rule : Rule) : Document :=
  .tableOf [
    some ("pattern", .text rule.pattern),
    some ("path_group", .option .nat rule.pathGroup),
    some ("line_group", .option .nat rule.lineGroup),
    Document.fieldIf "column_group" .nat rule.columnGroup,
    Document.fieldIf "context_group" .nat rule.contextGroup]

/-- A definition as a document, without its hooks. -/
def Definition.toDocument (d : Definition) : Document :=
  .tableOf [
    some ("name", .text d.name),
    Document.fieldIf "description" .text d.description,
    some ("patterns", .list (d.rules.map Rule.toDocument)),
    some ("priority", .int d.priority),
    some ("is_custom", .bool d.isCustom)]

/-- A configuration as a document. -/
def Config.toDocument (c : Config) : Document :=
  .table [
    ("enabled", .bool c.enabled),
    ("buffer_size", .nat c.bufferSize),
    ("languages", .texts c.languages),
    ("custom_parsers", .list (c.customGrammars.map Definition.toDocument)),
    ("parser_order", .list (c.classOrder.map fun k => .text k.label)),
    ("context_window", .nat c.contextWindow),
    ("wrap_navigation", .bool c.wrapNavigation),
    ("nearest_range", .nat c.nearestRange)]

/-! ## Reading -/

/-- A word of 64 bits. -/
def Document.toWord? (d : Document) : Option Nat :=
  d.toNatUpTo? Text.largest64

/-- A list whose items are all taken by `view?`. -/
def Document.toListOf? {α : Type} (view? : Document → Option α) (d : Document) :
    Option (List α) :=
  d.toList?.bind fun items => items.mapM view?

/-- A class by its name, which may also be the only field of a table, with no value. -/
def GrammarClass.ofDocument? : Document → Option GrammarClass
  | .table [(name, .null)] => GrammarClass.ofLabel? name
  | d => d.toText?.bind GrammarClass.ofLabel?

/-- The names of the fields of a rule. -/
def Rule.fieldNames : List String :=
  ["pattern", "path_group", "line_group", "column_group", "context_group"]

/-- The rule that a document describes. -/
def Rule.ofDocument? (positional : Bool) (d : Document) : Option Rule := do
  let fields ← d.toFields? positional Rule.fieldNames
  let group := fun (name : String) =>
    Document.field? fields name (Document.toOption? Document.toWord?) none
  pure {
    pattern := ← Document.required? fields "pattern" Document.toText?
    pathGroup := ← group "path_group"
    lineGroup := ← group "line_group"
    columnGroup := ← group "column_group"
    contextGroup := ← group "context_group" }

/-- The names of the fields of a definition. -/
def Definition.fieldNames : List String :=
  ["name", "description", "patterns", "priority", "is_custom"]

/-- The definition that a document describes. -/
def Definition.ofDocument? (positional : Bool) (d : Document) : Option Definition := do
  let fields ← d.toFields? positional Definition.fieldNames
  pure {
    name := ← Document.field? fields "name" Document.toText? ""
    description :=
      ← Document.field? fields "description" (Document.toOption? Document.toText?) none
    rules :=
      ← Document.field? fields "patterns" (Document.toListOf? (Rule.ofDocument? positional)) []
    priority :=
      ← Document.field? fields "priority"
        (Document.toIntIn? Int32.minValue.toInt Int32.maxValue.toInt) 0
    isCustom := ← Document.field? fields "is_custom" Document.toBool? false }

/-- The names of the fields of a configuration. -/
def Config.fieldNames : List String :=
  ["enabled", "buffer_size", "languages", "custom_parsers", "parser_order", "context_window",
    "wrap_navigation", "nearest_range"]

/-- The configuration that a document describes. Definitions are read by `definition?`. -/
def Config.ofDocumentWith? (positional : Bool) (definition? : Document → Option Definition)
    (d : Document) : Option Config := do
  let fields ← d.toFields? positional Config.fieldNames
  let usual : Config := {}
  pure {
    enabled := ← Document.field? fields "enabled" Document.toBool? usual.enabled
    bufferSize := ← Document.field? fields "buffer_size" Document.toWord? usual.bufferSize
    languages :=
      ← Document.field? fields "languages" (Document.toListOf? Document.toText?) usual.languages
    customGrammars :=
      ← Document.field? fields "custom_parsers" (Document.toListOf? definition?)
        usual.customGrammars
    classOrder :=
      ← Document.field? fields "parser_order" (Document.toListOf? GrammarClass.ofDocument?)
        usual.classOrder
    contextWindow :=
      ← Document.field? fields "context_window" Document.toWord? usual.contextWindow
    wrapNavigation :=
      ← Document.field? fields "wrap_navigation" Document.toBool? usual.wrapNavigation
    nearestRange := ← Document.field? fields "nearest_range" Document.toWord? usual.nearestRange }

/-- The configuration that a document describes. -/
def Config.ofDocument? (positional : Bool) (d : Document) : Option Config :=
  Config.ofDocumentWith? positional (Definition.ofDocument? positional) d

end TraceScan
