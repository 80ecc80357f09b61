import TraceScan.Grammar.Basic
import TraceScan.Path
import TraceScan.Pattern.Needs
import TraceScan.Pattern.Reader

/-!
# Grammars that are ready to match

`Grammar.compile` reads the patterns of a definition and checks the groups that its rules name. It
fails with the first defect, in the order name, rules, then for each rule its pattern, path group,
line group, column group and context group.
-/

namespace TraceScan

/-! ## Registration errors -/

/-- The groups that a rule may leave out. -/
inductive GroupRole where
  | column
  | context
  deriving DecidableEq, Repr

/-- The name of a role. -/
def GroupRole.label : GroupRole → String
  | column => "column"
  | context => "context"

/-- What is wrong with the pattern of a rule. -/
inductive RuleDefect where
  | unreadable (cause : PatternError)
  | absentGroup (role : GroupRole) (group : Nat)
  deriving DecidableEq, Repr

/-- How a defect is described; the causes of unreadable patterns are not told apart. -/
def RuleDefect.message : RuleDefect → String
  | unreadable _ => "<regex error>"
  | absentGroup role group => role.label ++ " group " ++ toString group ++ " does not exist"

/-- Why a grammar cannot be registered. -/
inductive RegistrationError where
  | invalidName
  | noPatterns (name : String)
  | invalidPattern (name : String) (index : Nat) (defect : RuleDefect)
  | missingPathGroup (name : String) (index : Nat)
  | missingLineGroup (name : String) (index : Nat)
  | duplicateName (name : String)
  deriving DecidableEq, Repr

/-- The text of a registration error. -/
def RegistrationError.message : RegistrationError → String
  | invalidName => "Parser name is missing or empty"
  | noPatterns name => "Parser '" ++ name ++ "' has no patterns"
  | invalidPattern name index defect =>
    "Parser '" ++ name ++ "' pattern " ++ toString index ++ " is invalid: " ++ defect.message
  | missingPathGroup name index =>
    "Parser '" ++ name ++ "' pattern " ++ toString index ++ " has no valid path group"
  | missingLineGroup name index =>
    "Parser '" ++ name ++ "' pattern " ++ toString index ++ " has no valid line group"
  | duplicateName name => "Parser '" ++ name ++ "' is already registered"

/-! ## Rules -/

/-- A rule whose pattern has been read. -/
structure CompiledRule where
  pattern : Pattern
  pathGroup : Nat
  lineGroup : Nat
  columnGroup : Option Nat
  contextGroup : Option Nat

namespace CompiledRule

/-- Whether a pattern has a group of the given number. -/
def hasGroup (p : Pattern) (group : Nat) : Bool :=
  1 ≤ group && group ≤ p.lastGroup

/-- Reads the rule at `index` of the grammar `name`. -/
def compile (name : String) (rule : Rule) (index : Nat) :
    Except RegistrationError CompiledRule := do
  let pattern ← match Pattern.read rule.pattern with
    | .ok pattern => pure pattern
    | .error cause => throw (.invalidPattern name index (.unreadable cause))
  let some pathGroup := rule.pathGroup.filter (hasGroup pattern)
    | throw (.missingPathGroup name index)
  let some lineGroup := rule.lineGroup.filter (hasGroup pattern)
    | throw (.missingLineGroup name index)
  let optional := fun (role : GroupRole) (group : Option Nat) =>
    match group with
    | some g =>
      if hasGroup pattern g then .ok ()
      else .error (.invalidPattern name index (.absentGroup role g))
    | none => .ok ()
  optional .column rule.columnGroup
  optional .context rule.contextGroup
  pure ⟨pattern, pathGroup, lineGroup, rule.columnGroup, rule.contextGroup⟩

/-- What the rule finds in a line: a path that is not blank, a line number, and the column and
context if their groups took part. -/
def capture (rule : CompiledRule) (line : List Char) : Option Capture := do
  let found ← rule.pattern.find line
  let path := Text.trim (← found.group? rule.pathGroup)
  if path.isEmpty then none
  let number ← Text.numeral? Text.largest32 (← found.group? rule.lineGroup)
  let column := (rule.columnGroup.bind found.group?).bind (Text.numeral? Text.largest32)
  let context := ((rule.contextGroup.bind found.group?).map Text.trim).filter (!·.isEmpty)
  pure ⟨String.ofList path, number, column, context.map String.ofList⟩

end CompiledRule

/-! ## Grammars -/

/-- A definition whose patterns have been read. Its name has no blanks around it. -/
structure Grammar where
  definition : Definition
  rules : List CompiledRule

namespace Grammar

/-- The name of a grammar. -/
def name (g : Grammar) : String := g.definition.name

/-- The class of a grammar. -/
def grammarClass (g : Grammar) : GrammarClass := g.definition.grammarClass

/-- The priority of a grammar. -/
def priority (g : Grammar) : Int := g.definition.priority

/-- Reads a definition. -/
def compile (d : Definition) : Except RegistrationError Grammar := do
  let name := Text.trimmed d.name
  if name.isEmpty then throw .invalidName
  if d.rules.isEmpty then throw (.noPatterns name)
  let rules ← d.rules.zipIdx.mapM fun (rule, index) => CompiledRule.compile name rule index
  pure ⟨{ d with name := name }, rules⟩

/-- What the first rule with a match finds in a line. -/
def captures (g : Grammar) (line : String) : Option Capture :=
  let chars := line.toList
  g.rules.findSome? (·.capture chars)

/-- Where a captured path leads, by the grammar's own hook if it has one. -/
def resolve (g : Grammar) (home cwd : Option String) (path : String) : Option String :=
  match g.definition.resolvePath with
  | some hook => hook path cwd
  | none => some (Path.resolve home cwd path)

/-- The grammar's opinion on the line at `index` of a window, if it has one. -/
def contextMatch (g : Grammar) (window : List String) (index : Nat) : Option Bool :=
  g.definition.contextMatch.map (· window index)

end Grammar

end TraceScan
