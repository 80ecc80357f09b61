import TraceScan.Document.Basic

/-!
# The tables of a TOML document

A table may be opened by its own heading, come about as part of a longer heading, or come about as
part of a dotted key, and may be filled in only in the way in which it began. `Section.addTo` adds
what stands under one heading to the tables before it, and fails where a key or a table is
defined twice.
-/

namespace TraceScan.Toml

/-! ## Tables under construction -/

/-- How a table came about. -/
inductive Origin where
  | heading
  | longerHeading
  | dottedKey
  deriving DecidableEq, Repr

/-- What a key stands for. -/
inductive Node where
  | value (d : Document)
  | table (origin : Origin) (fields : List (String × Node))
  | tables (items : List (List (String × Node)))

/-- The keys of a table and what they stand for. -/
abbrev Fields := List (String × Node)

/-- The fields with `node` in place of what `name` stood for. -/
def setField (name : String) (node : Node) (fields : Fields) : Fields :=
  fields.map fun f => if f.1 == name then (name, node) else f

/-- Changes the table that `path` leads to by `f`. Tables on the way that are not there yet come
about; of a list of tables the last one is meant. A dotted key does not enter the table of another
heading. -/
def descend (dotted : Bool) (f : Origin → Fields → Option Fields) :
    List String → Origin → Fields → Option Fields
  | [], origin, fields => f origin fields
  | key :: path, _, fields =>
    match fields.lookup key with
    | none => do
      let origin := if dotted then Origin.dottedKey else Origin.longerHeading
      pure (fields ++ [(key, .table origin (← descend dotted f path origin []))])
    | some (.table origin inner) =>
      if dotted && origin == .heading then none
      else do
        pure (setField key (.table origin (← descend dotted f path origin inner)) fields)
    | some (.tables items) => do
      let inner ← items.getLast?
      let inner ← descend dotted f path .heading inner
      pure (setField key (.tables (items.dropLast ++ [inner])) fields)
    | some (.value _) => none

/-! ## Pairs -/

/-- A key with its value. -/
structure Pair where
  path : List String
  key : String
  value : Document

/-- The table with one more pair. -/
def addPair (fields : Fields) (pair : Pair) : Option Fields :=
  descend true (fun origin fields =>
    if (fields.lookup pair.key).isSome || (origin == .dottedKey) == pair.path.isEmpty then none
    else some (fields ++ [(pair.key, .value pair.value)])) pair.path .heading fields

/-- The table with some more pairs. -/
def addPairs (fields : Fields) (pairs : List Pair) : Option Fields :=
  pairs.foldlM addPair fields

/-! ## Sections -/

/-- The heading of a section. -/
inductive Heading where
  | root
  | table (path : List String) (key : String)
  | item (path : List String) (key : String)

/-- A heading and the pairs under it. -/
structure Section where
  heading : Heading
  pairs : List Pair

/-- The tables of a document with those of one more section. -/
def Section.addTo (fields : Fields) (s : Section) : Option Fields :=
  match s.heading with
  | .root => addPairs fields s.pairs
  | .table path key =>
    descend false (fun _ fields =>
      match fields.lookup key with
      | none => do pure (fields ++ [(key, .table .heading (← addPairs [] s.pairs))])
      | some (.table .longerHeading inner) => do
        pure (setField key (.table .heading (← addPairs inner s.pairs)) fields)
      | some _ => none) path .heading fields
  | .item path key =>
    descend false (fun _ fields =>
      match fields.lookup key with
      | none => do pure (fields ++ [(key, .tables [← addPairs [] s.pairs])])
      | some (.tables items) => do
        pure (setField key (.tables (items ++ [← addPairs [] s.pairs])) fields)
      | some _ => none) path .heading fields

/-! ## Documents -/

mutual

/-- What a key stands for, as a document. -/
def Node.toDocument : Node → Document
  | .value d => d
  | .table _ fields => .table (fieldsToDocument fields)
  | .tables items => .list (tablesToDocument items)

/-- The fields of a table, as documents. -/
def fieldsToDocument : List (String × Node) → List (String × Document)
  | [] => []
  | f :: rest => (f.1, f.2.toDocument) :: fieldsToDocument rest

/-- The tables of a list, as documents. -/
def tablesToDocument : List (List (String × Node)) → List Document
  | [] => []
  | fields :: rest => .table (fieldsToDocument fields) :: tablesToDocument rest

end

end TraceScan.Toml
