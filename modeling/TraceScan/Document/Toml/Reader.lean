import TraceScan.Document.Toml.Lexeme
import TraceScan.Document.Toml.Table

/-!
# Reading TOML

`Toml.read?` reads a whole document, line by line: pairs of a key and a value, and the headings of
tables and of the items of lists of tables.
-/

namespace TraceScan.Toml

/-! ## Values -/

/-- Splits a key into the path to its table and its last part. -/
def splitKey? (parts : List String) : Option (List String × String) :=
  parts.getLast?.map fun key => (parts.dropLast, key)

mutual

/-- Reads a value. -/
def readValue : Nat → List Char → Option (Document × List Char)
  | 0, _ => none
  | fuel + 1, s =>
    match s with
    | '[' :: rest => (readItems fuel rest).map fun (items, rest) => (.list items, rest)
    | '\x7b' :: rest => do
      let (pairs, rest) ← match skipSpace rest with
        | '\x7d' :: rest => some ([], rest)
        | rest => readPairs fuel rest
      let fields ← addPairs [] pairs
      pure (.table (fieldsToDocument fields), rest)
    | 't' :: 'r' :: 'u' :: 'e' :: rest => some (.bool true, rest)
    | 'f' :: 'a' :: 'l' :: 's' :: 'e' :: rest => some (.bool false, rest)
    | _ =>
      match readText? s with
      | some (text, rest) => some (.text (String.ofList text), rest)
      | none =>
        match readMoment? s with
        | some rest => some (.other (String.ofList (s.take (s.length - rest.length))), rest)
        | none => readNumber? s

/-- Reads the items of a list up to its end. A comma may stand behind the last one. -/
def readItems : Nat → List Char → Option (List Document × List Char)
  | 0, _ => none
  | fuel + 1, s =>
    match skipTrivia s with
    | ']' :: rest => some ([], rest)
    | s => do
      let (d, rest) ← readValue fuel s
      match skipTrivia rest with
      | ',' :: rest => do
        let (items, rest) ← readItems fuel rest
        pure (d :: items, rest)
      | ']' :: rest => pure ([d], rest)
      | _ => none

/-- Reads a key and its value. -/
def readPair : Nat → List Char → Option (Pair × List Char)
  | 0, _ => none
  | fuel + 1, s => do
    let (parts, rest) ← readKey (s.length + 1) s
    let (path, key) ← splitKey? parts
    let rest ← afterChar? '=' rest
    let (value, rest) ← readValue fuel (skipSpace rest)
    pure (⟨path, key, value⟩, rest)

/-- Reads the pairs of a table in braces up to its end. -/
def readPairs : Nat → List Char → Option (List Pair × List Char)
  | 0, _ => none
  | fuel + 1, s => do
    let (pair, rest) ← readPair fuel s
    match skipSpace rest with
    | ',' :: rest => do
      let (pairs, rest) ← readPairs fuel rest
      pure (pair :: pairs, rest)
    | '\x7d' :: rest => pure ([pair], rest)
    | _ => none

end

/-! ## Documents -/

/-- Reads a heading, the closing brackets included. -/
def readHeading? (s : List Char) : Option (Heading × List Char) :=
  match s with
  | '[' :: '[' :: rest => do
    let (parts, rest) ← readKey (rest.length + 1) rest
    let (path, key) ← splitKey? parts
    let rest ← (afterChar? ']' rest).bind (afterChar? ']')
    pure (.item path key, rest)
  | '[' :: rest => do
    let (parts, rest) ← readKey (rest.length + 1) rest
    let (path, key) ← splitKey? parts
    let rest ← afterChar? ']' rest
    pure (.table path key, rest)
  | _ => none

/-- Reads the sections of a document; `current` is the one that is being read. -/
def readSections : Nat → Section → List Char → Option (List Section)
  | 0, _, _ => none
  | fuel + 1, current, s =>
    match skipTrivia s with
    | [] => some [current]
    | '[' :: rest => do
      let (heading, rest) ← readHeading? ('[' :: rest)
      let rest ← endOfLine? rest
      let sections ← readSections fuel ⟨heading, []⟩ rest
      pure (current :: sections)
    | s => do
      let (pair, rest) ← readPair (s.length + 1) s
      let rest ← endOfLine? rest
      readSections fuel { current with pairs := current.pairs ++ [pair] } rest

/-- The document that a text holds. A byte order mark may stand in front of it. -/
def read? (text : String) : Option Document := do
  let s := match text.toList with
    | '\ufeff' :: rest => rest
    | s => s
  let sections ← readSections (s.length + 1) ⟨.root, []⟩ s
  let fields ← sections.foldlM Section.addTo []
  pure (.table (fieldsToDocument fields))

end TraceScan.Toml
