import TraceScan.Document.Yaml.Lexeme

/-!
# Reading YAML

Collections by indentation and in brackets. Scalars without quotes are kept as they are written,
since what they mean depends on what is asked for.
-/

namespace TraceScan.Yaml

/-! ## Collections in brackets -/

/-- A scalar without characters and quotes, which stands for a value that was left out. -/
def nothing : Document := .plain ""

/-- Reads a scalar inside brackets. -/
def bracketScalar? (s : List Char) : Option (Document × List Char) :=
  match s with
  | '"' :: rest =>
    (readQuoted '"' (rest.length + 1) rest).map fun (t, rest) => (.text (String.ofList t), rest)
  | '\'' :: rest =>
    (readQuoted '\'' (rest.length + 1) rest).map fun (t, rest) => (.text (String.ofList t), rest)
  | _ => (readPlain? true 0 s).map fun (t, rest) => (.plain (String.ofList t), rest)

/-- What follows the colon behind a key in brackets, if there is one: a blank, unless the key stands
in quotes. -/
def afterColon? (key : Document) : List Char → Option (List Char)
  | ':' :: rest =>
    match key with
    | .plain _ => if atBlank rest then some rest else none
    | _ => some rest
  | _ => none

mutual

/-- Reads a value in brackets. -/
def readInner : Nat → List Char → Option (Document × List Char)
  | 0, _ => none
  | fuel + 1, s =>
    match s with
    | '[' :: rest => (readItems fuel rest).map fun (items, rest) => (.list items, rest)
    | '\x7b' :: rest => (readFields fuel rest).map fun (fields, rest) => (.table fields, rest)
    | _ => bracketScalar? s

/-- Reads the value behind a key in brackets. -/
def readFieldValue : Nat → List Char → Option (Document × List Char)
  | 0, _ => none
  | fuel + 1, s => do
    let g ← gap? true s
    match g.rest with
    | ',' :: _ => pure (nothing, g.rest)
    | ']' :: _ => pure (nothing, g.rest)
    | '\x7d' :: _ => pure (nothing, g.rest)
    | rest => readInner fuel rest

/-- Reads the items of a list up to its closing bracket. An item may be a key with its value. -/
def readItems : Nat → List Char → Option (List Document × List Char)
  | 0, _ => none
  | fuel + 1, s => do
    let g ← gap? true s
    match g.rest with
    | ']' :: rest => pure ([], rest)
    | rest => do
      let (d, rest) ← readInner fuel rest
      let g ← gap? true rest
      let (d, rest) ← match afterColon? d g.rest with
        | some rest => do
          let (value, rest) ← readFieldValue fuel rest
          pure (Document.table [((d.toText?).getD "", value)], rest)
        | none => pure (d, g.rest)
      let g ← gap? true rest
      match g.rest with
      | ',' :: rest => do
        let (items, rest) ← readItems fuel rest
        pure (d :: items, rest)
      | ']' :: rest => pure ([d], rest)
      | _ => none

/-- Reads the fields of a table up to its closing brace. -/
def readFields : Nat → List Char → Option (List (String × Document) × List Char)
  | 0, _ => none
  | fuel + 1, s => do
    let g ← gap? true s
    match g.rest with
    | '\x7d' :: rest => pure ([], rest)
    | rest => do
      let (key, rest) ← bracketScalar? rest
      let name ← key.toText?
      let g ← gap? true rest
      let (value, rest) ← match afterColon? key g.rest with
        | some rest => readFieldValue fuel rest
        | none => pure (nothing, g.rest)
      let g ← gap? true rest
      match g.rest with
      | ',' :: rest => do
        let (fields, rest) ← readFields fuel rest
        pure ((name, value) :: fields, rest)
      | '\x7d' :: rest => pure ([(name, value)], rest)
      | _ => none

end

/-! ## Collections by indentation -/

/-- Whether an item of a list starts here. -/
def isItem : List Char → Bool
  | '-' :: rest => atBlank rest
  | _ => false

/-- Reads a key and the colon behind it, all in one line. -/
def readKey? (s : List Char) : Option (String × List Char) := do
  let (name, rest) ← match s with
    | '"' :: rest => readQuoted '"' (rest.length + 1) rest
    | '\'' :: rest => readQuoted '\'' (rest.length + 1) rest
    | _ => if startsPlain false s then some (plainRun false s) else none
  if (s.take (s.length - rest.length)).contains '\n' then none
  match skipSpace rest with
  | ':' :: rest => if atBlank rest then some (String.ofList name, rest) else none
  | _ => none

/-- Reads a value that is no collection by indentation. -/
def readInline? (least : Nat) (s : List Char) : Option (Document × List Char) :=
  match s with
  | '[' :: _ => readInner (2 * s.length + 2) s
  | '\x7b' :: _ => readInner (2 * s.length + 2) s
  | '|' :: rest =>
    (readBlock? true least rest).map fun (t, rest) => (.text (String.ofList t), rest)
  | '>' :: rest =>
    (readBlock? false least rest).map fun (t, rest) => (.text (String.ofList t), rest)
  | '"' :: rest =>
    (readQuoted '"' (rest.length + 1) rest).map fun (t, rest) => (.text (String.ofList t), rest)
  | '\'' :: rest =>
    (readQuoted '\'' (rest.length + 1) rest).map fun (t, rest) => (.text (String.ofList t), rest)
  | _ => (readPlain? false least s).map fun (t, rest) => (.plain (String.ofList t), rest)

mutual

/-- Reads a value that starts in the given column, inside something indented by less than
`least`. -/
def readNode : Nat → Nat → Nat → List Char → Option (Document × List Char)
  | 0, _, _, _ => none
  | fuel + 1, least, column, s =>
    if isItem s then (readList fuel column s).map fun (items, rest) => (.list items, rest)
    else if (readKey? s).isSome then
      (readTable fuel column s).map fun (fields, rest) => (.table fields, rest)
    else readInline? least s

/-- Reads the items of a list whose dashes stand in the given column. -/
def readList : Nat → Nat → List Char → Option (List Document × List Char)
  | 0, _, _ => none
  | fuel + 1, column, s => do
    let g ← gap? false (s.drop 1)
    let (d, rest) ←
      if g.atEnd then some (nothing, s.drop 1)
      else match g.column with
        | none => readNode fuel (column + 1) (column + 1 + g.blanks) g.rest
        | some k =>
          if column < k then readNode fuel (column + 1) k g.rest else some (nothing, s.drop 1)
    let g ← gap? false rest
    if g.column == some column && !g.atEnd && isItem g.rest then
      let (items, rest) ← readList fuel column g.rest
      pure (d :: items, rest)
    else pure ([d], rest)

/-- Reads the fields of a table whose keys stand in the given column. -/
def readTable : Nat → Nat → List Char → Option (List (String × Document) × List Char)
  | 0, _, _ => none
  | fuel + 1, column, s => do
    let (name, behind) ← readKey? s
    let g ← gap? false behind
    let (d, rest) ←
      if g.atEnd then some (nothing, behind)
      else match g.column with
        | none => readInline? (column + 1) g.rest
        | some k =>
          if column < k then readNode fuel (column + 1) k g.rest
          else if k == column && isItem g.rest then
            (readList fuel column g.rest).map fun (items, rest) => (.list items, rest)
          else some (nothing, behind)
    let g ← gap? false rest
    if g.column == some column && !g.atEnd then
      let (fields, rest) ← readTable fuel column g.rest
      pure ((name, d) :: fields, rest)
    else pure ([(name, d)], rest)

end

/-! ## Documents -/

/-- Whether a character may stand in a document. -/
def isAllowed (c : Char) : Bool :=
  c == '\t' || c == '\n' || c == '\r' || c == '\u0085' ||
    (32 ≤ c.toNat && c.toNat ≤ 126) ||
    (160 ≤ c.toNat && c != '\ufeff' && c != '\ufffe' && c != '\uffff')

/-- The text with every line break written as `\n`. -/
def unifyBreaks : List Char → List Char
  | [] => []
  | '\r' :: '\n' :: rest => '\n' :: unifyBreaks rest
  | c :: rest => (if c == '\r' || c == '\u0085' then '\n' else c) :: unifyBreaks rest

/-- Whether nothing more than the end of a document follows. -/
def endsDocument (s : List Char) : Bool :=
  match gap? false s with
  | none => false
  | some g =>
    g.rest.isEmpty ||
      (g.column == some 0 && isMarker '.' g.rest &&
        match gap? false (g.rest.drop 3) with
        | some g => g.rest.isEmpty
        | none => false)

/-- The text behind a directive that names the version of the language, 1.1 or 1.2. A document with
a directive begins with `---`. -/
def afterDirective? (s : List Char) : Option (List Char) :=
  let mark := "%YAML ".toList
  if mark.isPrefixOf s then
    match skipSpace (s.drop mark.length) with
    | '1' :: '.' :: minor :: rest =>
      if (minor == '1' || minor == '2') && atBlank rest then
        match gap? false rest with
        | some g => if isMarker '-' g.rest && g.column == some 0 then some g.rest else none
        | none => none
      else none
    | _ => none
  else none

/-- The document that a text holds, which must hold no more than one. A byte order mark, a directive
and `---` may stand in front of it, and `...` behind it. -/
def read? (text : String) : Option Document := do
  let s := match text.toList with
    | '\ufeff' :: rest => rest
    | s => s
  if !s.all isAllowed then none
  let s := unifyBreaks s
  let fuel := 2 * s.length + 2
  let g ← lineGap? s
  let g : Gap := match afterDirective? g.rest with
    | some rest => ⟨some 0, 0, rest⟩
    | none => g
  if isMarker '-' g.rest && g.column == some 0 then
    let body := g.rest.drop 3
    let h ← gap? false body
    let (d, rest) ←
      if h.atEnd then some (nothing, body)
      else match h.column with
        | none => readInline? 0 h.rest
        | some k => readNode fuel 0 k h.rest
    if endsDocument rest then some d else none
  else if g.rest.isEmpty then some nothing
  else do
    let (d, rest) ← readNode fuel 0 (g.column.getD 0) g.rest
    if endsDocument rest then some d else none

end TraceScan.Yaml
