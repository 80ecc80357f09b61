import TraceScan.Document.Basic

/-!
# The lexemes of TOML

Line ends, keys, texts, numbers and dates. Each reader takes what it reads off the start of a text
and hands back the rest.
-/

namespace TraceScan.Toml

/-! ## Line ends -/

/-- Whether a character may stand in a comment, or in a text without an escape. -/
def isTextChar (c : Char) : Bool :=
  c == '\t' || (32 ≤ c.toNat && c.toNat != 127)

/-- Whether a character separates the parts of a line. -/
def isSpace (c : Char) : Bool :=
  c == ' ' || c == '\t'

/-- The text behind the blanks. -/
def skipSpace (s : List Char) : List Char :=
  s.dropWhile isSpace

/-- The text behind a line break. -/
def afterBreak? : List Char → Option (List Char)
  | '\n' :: rest => some rest
  | '\r' :: '\n' :: rest => some rest
  | _ => none

/-- The text behind a comment, if there is one. -/
def skipComment : List Char → List Char
  | '#' :: rest => rest.dropWhile isTextChar
  | s => s

/-- The text behind the end of a line: blanks, a comment, and a line break or nothing more. -/
def endOfLine? (s : List Char) : Option (List Char) :=
  match skipComment (skipSpace s) with
  | [] => some []
  | rest => afterBreak? rest

/-- The text behind blanks and line breaks. -/
def skipBreaks : Nat → List Char → List Char
  | 0, s => s
  | fuel + 1, s =>
    match afterBreak? (skipSpace s) with
    | some behind => skipBreaks fuel behind
    | none => skipSpace s

/-- The text behind blanks, comments and line breaks. -/
def skipLines : Nat → List Char → List Char
  | 0, s => s
  | fuel + 1, s =>
    match skipSpace s with
    | [] => []
    | c :: rest =>
      if c == '#' then skipLines fuel (rest.dropWhile isTextChar)
      else match afterBreak? (c :: rest) with
        | some behind => skipLines fuel behind
        | none => c :: rest

/-- The text behind everything that may stand between the items of a list. -/
def skipTrivia (s : List Char) : List Char :=
  skipLines (s.length + 1) s

/-! ## Texts -/

/-- The character with a code point of `width` hexadecimal digits. -/
def codePoint? (width : Nat) (s : List Char) : Option (Char × List Char) := do
  let digits := s.take width
  if digits.length < width then none
  let n ← Document.inBase? 16 digits
  if n.isValidChar then some (Char.ofNat n, s.drop width) else none

/-- The character that stands behind a backslash. -/
def unescape? : List Char → Option (Char × List Char)
  | 'b' :: rest => some ('\x08', rest)
  | 't' :: rest => some ('\t', rest)
  | 'n' :: rest => some ('\n', rest)
  | 'f' :: rest => some ('\x0c', rest)
  | 'r' :: rest => some ('\r', rest)
  | '"' :: rest => some ('"', rest)
  | '\\' :: rest => some ('\\', rest)
  | 'u' :: rest => codePoint? 4 rest
  | 'U' :: rest => codePoint? 8 rest
  | _ => none

/-- Reads a text in double quotes up to its end. -/
def readBasic : Nat → List Char → Option (List Char × List Char)
  | 0, _ => none
  | _ + 1, [] => none
  | fuel + 1, c :: rest =>
    if c == '"' then some ([], rest)
    else if c == '\\' then do
      let (d, rest) ← unescape? rest
      let (text, rest) ← readBasic fuel rest
      pure (d :: text, rest)
    else if isTextChar c then do
      let (text, rest) ← readBasic fuel rest
      pure (c :: text, rest)
    else none

/-- Reads a text in single quotes up to its end. -/
def readLiteral : List Char → Option (List Char × List Char)
  | [] => none
  | c :: rest =>
    if c == '\'' then some ([], rest)
    else if isTextChar c then do
      let (text, rest) ← readLiteral rest
      pure (c :: text, rest)
    else none

/-- What three or more quotes at the start of a text stand for: the end of a long text, with the
fourth and fifth quote still part of it. -/
def longEnd? (quote : Char) (s : List Char) : Option (List Char × List Char) :=
  let count := (s.takeWhile (· == quote)).length
  if count < 3 then none
  else
    let extra := min (count - 3) 2
    some (List.replicate extra quote, s.drop (3 + extra))

/-- Reads a text in three quotes of a kind up to its end. A backslash at the end of a line takes
the white space behind it out of a text in double quotes. -/
def readLong (quote : Char) : Nat → List Char → Option (List Char × List Char)
  | 0, _ => none
  | _ + 1, [] => none
  | fuel + 1, c :: rest =>
    match longEnd? quote (c :: rest) with
    | some ended => some ended
    | none =>
      match afterBreak? (c :: rest) with
      | some rest => do
        let (text, rest) ← readLong quote fuel rest
        pure ('\n' :: text, rest)
      | none =>
        if quote == '"' && c == '\\' then
          match afterBreak? (skipSpace rest) with
          | some rest => readLong quote fuel (skipBreaks (rest.length + 1) rest)
          | none => do
            let (d, rest) ← unescape? rest
            let (text, rest) ← readLong quote fuel rest
            pure (d :: text, rest)
        else if isTextChar c then do
          let (text, rest) ← readLong quote fuel rest
          pure (c :: text, rest)
        else none

/-- Reads a text of any kind. A line break right behind three quotes is not part of the text. -/
def readText? (s : List Char) : Option (List Char × List Char) :=
  let long := fun (quote : Char) (rest : List Char) =>
    readLong quote (rest.length + 1) ((afterBreak? rest).getD rest)
  match s with
  | '"' :: '"' :: '"' :: rest => long '"' rest
  | '\'' :: '\'' :: '\'' :: rest => long '\'' rest
  | '"' :: rest => readBasic (rest.length + 1) rest
  | '\'' :: rest => readLiteral rest
  | _ => none

/-! ## Keys -/

/-- Whether a character may stand in a key without quotes. -/
def isKeyChar (c : Char) : Bool :=
  Text.isPlainLetter c || Text.isPlainDigit c || c == '_' || c == '-'

/-- Reads one part of a key. -/
def readKeyPart? (s : List Char) : Option (List Char × List Char) :=
  match s with
  | '"' :: rest => readBasic (rest.length + 1) rest
  | '\'' :: rest => readLiteral rest
  | _ =>
    let part := s.takeWhile isKeyChar
    if part.isEmpty then none else some (part, s.dropWhile isKeyChar)

/-- Reads a key of one or more parts with dots between them, and the blanks around it. -/
def readKey : Nat → List Char → Option (List String × List Char)
  | 0, _ => none
  | fuel + 1, s => do
    let (part, rest) ← readKeyPart? (skipSpace s)
    match skipSpace rest with
    | '.' :: rest => do
      let (parts, rest) ← readKey fuel rest
      pure (String.ofList part :: parts, rest)
    | rest => pure ([String.ofList part], rest)

/-! ## Numbers -/

/-- Further digits of a number; single underscores may stand between digits. -/
def moreDigits (isDigit : Char → Bool) : List Char → List Char × List Char
  | [] => ([], [])
  | '_' :: c :: rest =>
    if isDigit c then
      let (digits, rest) := moreDigits isDigit rest
      (c :: digits, rest)
    else ([], '_' :: c :: rest)
  | c :: rest =>
    if isDigit c then
      let (digits, rest) := moreDigits isDigit rest
      (c :: digits, rest)
    else ([], c :: rest)

/-- Reads one or more digits. -/
def digits? (isDigit : Char → Bool) : List Char → Option (List Char × List Char)
  | c :: rest =>
    if isDigit c then
      let (digits, rest) := moreDigits isDigit rest
      some (c :: digits, rest)
    else none
  | [] => none

/-- Reads an integer behind a prefix that names its base. -/
def readInBase? (base : Nat) (s : List Char) : Option (Document × List Char) := do
  let (digits, rest) ← digits? (fun c => ((Text.hexDigit? c).filter (· < base)).isSome) s
  let n ← Document.inBase? base digits
  if n ≤ Int64.maxValue.toInt then some (.int n, rest) else none

/-- Reads the fraction and the exponent of a number. -/
def readFraction? (s : List Char) : Option (List Char) := do
  let rest ← match s with
    | '.' :: rest => (digits? Text.isPlainDigit rest).map Prod.snd
    | rest => some rest
  match rest with
  | mark :: rest =>
    if mark == 'e' || mark == 'E' then
      let digits := match rest with
        | '+' :: rest => rest
        | '-' :: rest => rest
        | rest => rest
      (digits? Text.isPlainDigit digits).map Prod.snd
    else some (mark :: rest)
  | [] => some []

/-- Reads a decimal number without its sign. -/
def readDecimal? (negative : Bool) (s : List Char) : Option (Document × List Char) :=
  match s with
  | 'i' :: 'n' :: 'f' :: rest => some (.other "inf", rest)
  | 'n' :: 'a' :: 'n' :: rest => some (.other "nan", rest)
  | _ => do
    let (digits, rest) ← match s with
      | '0' :: rest => some (['0'], rest)
      | s => digits? Text.isPlainDigit s
    let behind ← readFraction? rest
    if behind.length < rest.length then
      pure (.other (String.ofList (s.take (s.length - behind.length))), behind)
    else
      let n ← Text.decimal? digits
      let value : Int := if negative then -(n : Int) else n
      if Int64.minValue.toInt ≤ value ∧ value ≤ Int64.maxValue.toInt then pure (.int value, rest)
      else none

/-- Reads a number. -/
def readNumber? : List Char → Option (Document × List Char)
  | '+' :: rest => readDecimal? false rest
  | '-' :: rest => readDecimal? true rest
  | '0' :: 'x' :: rest => readInBase? 16 rest
  | '0' :: 'o' :: rest => readInBase? 8 rest
  | '0' :: 'b' :: rest => readInBase? 2 rest
  | s => readDecimal? false s

/-! ## Dates and times -/

/-- Reads exactly `width` digits of a number from `least` to `largest`. -/
def fixed? (width least largest : Nat) (s : List Char) : Option (Nat × List Char) := do
  let digits := s.take width
  if digits.length < width then none
  let n ← Text.decimal? digits
  if least ≤ n ∧ n ≤ largest then some (n, s.drop width) else none

/-- The text behind a given character. -/
def afterChar? (c : Char) : List Char → Option (List Char)
  | d :: rest => if d == c then some rest else none
  | [] => none

/-- The number of days in a month. -/
def daysIn (year month : Nat) : Nat :=
  if month == 2 then
    if year % 4 == 0 && (year % 100 != 0 || year % 400 == 0) then 29 else 28
  else if [4, 6, 9, 11].contains month then 30
  else 31

/-- Reads a date. -/
def readDate? (s : List Char) : Option (List Char) := do
  let (year, s) ← fixed? 4 0 9999 s
  let s ← afterChar? '-' s
  let (month, s) ← fixed? 2 1 12 s
  let s ← afterChar? '-' s
  let (_, s) ← fixed? 2 1 (daysIn year month) s
  pure s

/-- Reads a time of the day. -/
def readTime? (s : List Char) : Option (List Char) := do
  let (_, s) ← fixed? 2 0 23 s
  let s ← afterChar? ':' s
  let (_, s) ← fixed? 2 0 59 s
  let s ← afterChar? ':' s
  let (_, s) ← fixed? 2 0 60 s
  match s with
  | '.' :: c :: rest =>
    if Text.isPlainDigit c then pure (rest.dropWhile Text.isPlainDigit) else none
  | s => pure s

/-- Reads the offset of a time, if there is one. -/
def readOffset? (s : List Char) : Option (List Char) :=
  match s with
  | 'Z' :: rest => some rest
  | 'z' :: rest => some rest
  | sign :: rest =>
    if sign == '+' || sign == '-' then do
      let (_, rest) ← fixed? 2 0 23 rest
      let rest ← afterChar? ':' rest
      let (_, rest) ← fixed? 2 0 59 rest
      pure rest
    else some s
  | [] => some []

/-- Reads a date, a time or both. -/
def readMoment? (s : List Char) : Option (List Char) :=
  match readDate? s with
  | some (mark :: rest) =>
    if mark == 'T' || mark == 't' || mark == ' ' then
      match readTime? rest with
      | some behind => readOffset? behind
      | none => some (mark :: rest)
    else some (mark :: rest)
  | some [] => some []
  | none => readTime? s

end TraceScan.Toml
