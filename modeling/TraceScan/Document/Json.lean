import TraceScan.Document.Basic

/-!
# JSON

Documents written as JSON, in one line or indented, and the reader for them. In texts, only quotes,
backslashes and control characters are escaped.
-/

namespace TraceScan.Json

/-! ## Writing -/

/-- The lower-case hexadecimal digit of a value below 16. -/
def hexDigit (n : Nat) : Char :=
  if n < 10 then Char.ofNat (48 + n) else Char.ofNat (87 + n)

/-- A character inside quotes. -/
def escape (c : Char) : List Char :=
  if c == '"' then ['\\', '"']
  else if c == '\\' then ['\\', '\\']
  else if c == '\x08' then ['\\', 'b']
  else if c == '\x0c' then ['\\', 'f']
  else if c == '\n' then ['\\', 'n']
  else if c == '\r' then ['\\', 'r']
  else if c == '\t' then ['\\', 't']
  else if c.toNat < 32 then
    ['\\', 'u', '0', '0', hexDigit (c.toNat / 16), hexDigit (c.toNat % 16)]
  else [c]

/-- A text in quotes. -/
def quote (s : String) : List Char :=
  '"' :: (s.toList.flatMap escape ++ ['"'])

/-- A value that is neither a list nor a table. -/
def scalar : Document → List Char
  | .bool true => "true".toList
  | .bool false => "false".toList
  | .int n => (toString n).toList
  | .text s => quote s
  | .plain s => quote s
  | .other s => s.toList
  | _ => "null".toList

mutual

/-- A document in one line. -/
def compact : Document → List Char
  | .list [] => ['[', ']']
  | .list (d :: rest) => '[' :: (compact d ++ compactItems rest)
  | .table [] => ['\x7b', '\x7d']
  | .table (f :: rest) =>
    '\x7b' :: (quote f.1 ++ ':' :: (compact f.2 ++ compactFields rest))
  | d => scalar d

/-- The items of a list behind the first one, and its end. -/
def compactItems : List Document → List Char
  | [] => [']']
  | d :: rest => ',' :: (compact d ++ compactItems rest)

/-- The fields of a table behind the first one, and its end. -/
def compactFields : List (String × Document) → List Char
  | [] => ['\x7d']
  | f :: rest => ',' :: (quote f.1 ++ ':' :: (compact f.2 ++ compactFields rest))

end

/-- A new line with `depth` steps of indentation. -/
def newLine (depth : Nat) : List Char :=
  '\n' :: List.replicate (2 * depth) ' '

mutual

/-- A document with one item or field in a line, at the given depth. -/
def prettyAt (depth : Nat) : Document → List Char
  | .list [] => ['[', ']']
  | .list (d :: rest) =>
    '[' :: (newLine (depth + 1) ++ prettyAt (depth + 1) d ++ prettyItems depth rest)
  | .table [] => ['\x7b', '\x7d']
  | .table (f :: rest) =>
    '\x7b' :: (newLine (depth + 1) ++ quote f.1 ++ ':' :: ' ' ::
      (prettyAt (depth + 1) f.2 ++ prettyFields depth rest))
  | d => scalar d

/-- The items of a list behind the first one, and its end. -/
def prettyItems (depth : Nat) : List Document → List Char
  | [] => newLine depth ++ [']']
  | d :: rest =>
    ',' :: (newLine (depth + 1) ++ prettyAt (depth + 1) d ++ prettyItems depth rest)

/-- The fields of a table behind the first one, and its end. -/
def prettyFields (depth : Nat) : List (String × Document) → List Char
  | [] => newLine depth ++ ['\x7d']
  | f :: rest =>
    ',' :: (newLine (depth + 1) ++ quote f.1 ++ ':' :: ' ' ::
      (prettyAt (depth + 1) f.2 ++ prettyFields depth rest))

end

/-- The document as JSON in one line. -/
def render (d : Document) : String :=
  String.ofList (compact d)

/-- The document as indented JSON. -/
def renderPretty (d : Document) : String :=
  String.ofList (prettyAt 0 d)

/-! ## Reading -/

/-- Whether a character may stand between the parts of a document. -/
def isSpace (c : Char) : Bool :=
  c == ' ' || c == '\n' || c == '\t' || c == '\r'

/-- The text behind the blanks. -/
def skipSpace (s : List Char) : List Char :=
  s.dropWhile isSpace

/-- The value of four hexadecimal digits. -/
def codeUnit? : List Char → Option (Nat × List Char)
  | a :: b :: c :: d :: rest => do
    let a ← Text.hexDigit? a
    let b ← Text.hexDigit? b
    let c ← Text.hexDigit? c
    let d ← Text.hexDigit? d
    pure (((a * 16 + b) * 16 + c) * 16 + d, rest)
  | _ => none

/-- The character of a letter behind a backslash. -/
def unescape? : Char → Option Char
  | '"' => some '"'
  | '\\' => some '\\'
  | '/' => some '/'
  | 'b' => some '\x08'
  | 'f' => some '\x0c'
  | 'n' => some '\n'
  | 'r' => some '\r'
  | 't' => some '\t'
  | _ => none

/-- The character of one or two code units behind `\u`, or `none` inside where they make up half of
a character. -/
def readUnit? (s : List Char) : Option (Option Char × List Char) := do
  let (high, rest) ← codeUnit? s
  if 0xD800 ≤ high ∧ high < 0xDC00 then
    match rest with
    | '\\' :: 'u' :: behind =>
      match codeUnit? behind with
      | some (low, behind) =>
        if 0xDC00 ≤ low ∧ low < 0xE000 then
          pure (some (Char.ofNat (0x10000 + (high - 0xD800) * 0x400 + (low - 0xDC00))), behind)
        else pure (none, rest)
      | none => pure (none, rest)
    | _ => pure (none, rest)
  else if 0xDC00 ≤ high ∧ high < 0xE000 then pure (none, rest)
  else pure (some (Char.ofNat high), rest)

/-- Reads a text up to its closing quote. The text is `none` if it holds half a character. -/
def readQuoted : Nat → List Char → Option (Option (List Char) × List Char)
  | 0, _ => none
  | _ + 1, [] => none
  | _ + 1, '"' :: rest => some (some [], rest)
  | fuel + 1, '\\' :: 'u' :: rest => do
    let (c, rest) ← readUnit? rest
    let (text, rest) ← readQuoted fuel rest
    pure (do pure ((← c) :: (← text)), rest)
  | fuel + 1, '\\' :: letter :: rest => do
    let c ← unescape? letter
    let (text, rest) ← readQuoted fuel rest
    pure (text.map (c :: ·), rest)
  | fuel + 1, c :: rest => do
    if c.toNat < 32 || c == '\\' then none
    let (text, rest) ← readQuoted fuel rest
    pure (text.map (c :: ·), rest)

/-- The digits at the start of a text, of which there must be one. -/
def digits? (s : List Char) : Option (List Char × List Char) :=
  match s.takeWhile Text.isPlainDigit with
  | [] => none
  | digits => some (digits, s.dropWhile Text.isPlainDigit)

/-- A fraction, if there is one. -/
def readFraction? : List Char → Option (List Char × List Char)
  | '.' :: rest => do
    let (digits, rest) ← digits? rest
    pure ('.' :: digits, rest)
  | s => some ([], s)

/-- An exponent, if there is one. -/
def readExponent? (s : List Char) : Option (List Char × List Char) :=
  match s with
  | mark :: rest =>
    if mark == 'e' || mark == 'E' then
      let (sign, rest) := match rest with
        | '+' :: rest => (['+'], rest)
        | '-' :: rest => (['-'], rest)
        | rest => ([], rest)
      (digits? rest).map fun (digits, rest) => (mark :: (sign ++ digits), rest)
    else some ([], s)
  | [] => some ([], s)

/-- A number without its sign: an integer has no needless zero in front. A minus in front of a bare
zero makes a fraction of it, as do a decimal point and an exponent. -/
def readNumber? (negative : Bool) (s : List Char) : Option (Document × List Char) := do
  let (whole, rest) ← digits? s
  if whole.head? == some '0' && 1 < whole.length then none
  let (fraction, rest) ← readFraction? rest
  let (exponent, rest) ← readExponent? rest
  let value := (Text.decimal? whole).getD 0
  let sign := if negative then ['-'] else []
  if fraction.isEmpty && exponent.isEmpty && !(negative && value == 0) then
    pure (.int (if negative then -(value : Int) else value), rest)
  else pure (.other (String.ofList (sign ++ whole ++ fraction ++ exponent)), rest)

/-- What follows `word` at the start of a text. -/
def after? (word : String) (s : List Char) : Option (List Char) :=
  let w := word.toList
  if w.isPrefixOf s then some (s.drop w.length) else none

mutual

/-- Reads a document. -/
def readValue : Nat → List Char → Option (Document × List Char)
  | 0, _ => none
  | fuel + 1, s =>
    match skipSpace s with
    | '[' :: rest =>
      match skipSpace rest with
      | ']' :: behind => some (.list [], behind)
      | _ => (readItems fuel rest).map fun (items, behind) => (.list items, behind)
    | '\x7b' :: rest =>
      match skipSpace rest with
      | '\x7d' :: behind => some (.table [], behind)
      | _ => (readFields fuel rest).map fun (fields, behind) => (.table fields, behind)
    | '"' :: rest =>
      (readQuoted (rest.length + 1) rest).map fun (text, behind) =>
        match text with
        | some text => (.text (String.ofList text), behind)
        | none => (.other "", behind)
    | '-' :: rest => readNumber? true rest
    | 't' :: rest => (after? "rue" rest).map fun behind => (.bool true, behind)
    | 'f' :: rest => (after? "alse" rest).map fun behind => (.bool false, behind)
    | 'n' :: rest => (after? "ull" rest).map fun behind => (.null, behind)
    | rest => readNumber? false rest

/-- Reads the items of a list up to its end. -/
def readItems : Nat → List Char → Option (List Document × List Char)
  | 0, _ => none
  | fuel + 1, s => do
    let (d, rest) ← readValue fuel s
    match skipSpace rest with
    | ',' :: rest => do
      let (items, behind) ← readItems fuel rest
      pure (d :: items, behind)
    | ']' :: behind => pure ([d], behind)
    | _ => none

/-- Reads the fields of a table up to its end. -/
def readFields : Nat → List Char → Option (List (String × Document) × List Char)
  | 0, _ => none
  | fuel + 1, s =>
    match skipSpace s with
    | '"' :: rest => do
      let (name, rest) ← readQuoted (rest.length + 1) rest
      let name ← name
      match skipSpace rest with
      | ':' :: rest => do
        let (d, rest) ← readValue fuel rest
        match skipSpace rest with
        | ',' :: rest => do
          let (fields, behind) ← readFields fuel rest
          pure ((String.ofList name, d) :: fields, behind)
        | '\x7d' :: behind => pure ([(String.ofList name, d)], behind)
        | _ => none
      | _ => none
    | _ => none

end

/-- The document that a text holds, with nothing but blanks around it. -/
def read? (text : String) : Option Document := do
  let s := text.toList
  let (d, rest) ← readValue (s.length + 1) s
  if (skipSpace rest).isEmpty then some d else none

end TraceScan.Json
