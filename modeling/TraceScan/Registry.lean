import TraceScan.Config
import TraceScan.Grammar.Builtin
import TraceScan.Grammar.Compiled

/-!
# The registry of grammars

The registered grammars in the order of registration, and the order in which they are tried: by
class, then by falling priority, then by registration. A registry keeps that order as a list of
places in the list of its grammars, and every change of the grammars or of the classes sets it anew.
-/

namespace TraceScan

/-- The registered grammars. -/
structure Registry where
  /-- The grammars in the order of registration. -/
  grammars : List Grammar := []
  /-- The places of the grammars in that list, in the order in which they are tried. -/
  order : List Nat := []
  /-- The classes in the order in which they are tried. -/
  classOrder : List GrammarClass := [.custom, .builtin]

/-- What a set-up loaded, by name, and what it skipped, with the reasons. -/
structure SetupReport where
  loaded : List String := []
  skipped : List String := []
  deriving DecidableEq, Repr

namespace Registry

/-! ## Look-up -/

/-- The grammar of the given name. -/
def find? (r : Registry) (name : String) : Option Grammar :=
  r.grammars.find? (·.name == name)

/-- Whether a name is registered. -/
def contains (r : Registry) (name : String) : Bool :=
  (r.find? name).isSome

/-- The registered names, in the order of registration. -/
def names (r : Registry) : List String :=
  r.grammars.map Grammar.name

/-- The definitions of the registered grammars, in the order of registration. -/
def definitions (r : Registry) : List Definition :=
  r.grammars.map Grammar.definition

/-! ## The matching order -/

/-- The place of a class in the class order. -/
def rank (r : Registry) (c : GrammarClass) : Nat :=
  r.classOrder.idxOf c

/-- Whether `g` may be tried before `h`. -/
def precedes (r : Registry) (g h : Grammar) : Bool :=
  r.rank g.grammarClass < r.rank h.grammarClass ||
    (r.rank g.grammarClass == r.rank h.grammarClass && h.priority ≤ g.priority)

/-- Puts a grammar with its place in front of the first one that it precedes. -/
def insertOrdered (r : Registry) (g : Grammar × Nat) : List (Grammar × Nat) → List (Grammar × Nat)
  | [] => [g]
  | h :: rest => if r.precedes g.1 h.1 then g :: h :: rest else h :: insertOrdered r g rest

/-- The registry with the order that its grammars and classes call for. -/
def reorder (r : Registry) : Registry :=
  { r with order := (r.grammars.zipIdx.foldr (insertOrdered r) []).map Prod.snd }

/-- The grammars in the order in which they are tried. -/
def ordered (r : Registry) : List Grammar :=
  r.order.filterMap (r.grammars[·]?)

/-! ## Changes -/

/-- Reads a definition and adds its grammar under a name that is new. -/
def register (r : Registry) (d : Definition) : Except RegistrationError Registry := do
  let g ← Grammar.compile d
  if r.contains g.name then throw (.duplicateName g.name)
  pure { r with grammars := r.grammars ++ [g] }.reorder

/-- The registry without the grammar of the given name, if there is one. -/
def unregister? (r : Registry) (name : String) : Option Registry :=
  if r.contains name then
    some { r with grammars := r.grammars.eraseP (·.name == name) }.reorder
  else none

/-- The registry without grammars. -/
def clear (r : Registry) : Registry :=
  { r with grammars := [], order := [] }

/-- The registry with another order of classes. -/
def setClassOrder (r : Registry) (order : List GrammarClass) : Registry :=
  { r with classOrder := effectiveOrder order }.reorder

/-! ## Set-up -/

/-- Registers a grammar asked for as `name`, and reports it. -/
def load (state : Registry × SetupReport) (name : String) (d : Definition) :
    Registry × SetupReport :=
  match state.1.register d with
  | .ok r => (r, { state.2 with loaded := state.2.loaded ++ [name] })
  | .error e =>
    (state.1, { state.2 with skipped := state.2.skipped ++ [name ++ ": " ++ e.message] })

/-- Registers the built-in grammar of a language, if there is one. -/
def loadBuiltin (state : Registry × SetupReport) (language : String) : Registry × SetupReport :=
  match Builtin.find? language with
  | some d => load state language d
  | none =>
    (state.1,
      { state.2 with skipped := state.2.skipped ++ [language ++ ": unknown built-in language"] })

/-- Registers a grammar of the user's. -/
def loadCustom (state : Registry × SetupReport) (d : Definition) : Registry × SetupReport :=
  load state d.name { d with isCustom := true }

/-- Empties the registry and registers what a configuration asks for. What cannot be registered is
skipped. -/
def setUp (r : Registry) (config : Config) : Registry × SetupReport :=
  let languages := if config.languages.isEmpty then Builtin.names else config.languages
  let empty := { r.clear with classOrder := effectiveOrder config.classOrder }
  config.customGrammars.foldl loadCustom (languages.foldl loadBuiltin (empty, {}))

/-- A new registry that is set up with a configuration. -/
def ofConfig (config : Config) : Registry × SetupReport :=
  setUp {} config

end Registry

end TraceScan
