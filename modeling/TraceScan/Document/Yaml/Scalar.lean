import TraceScan.Document.Basic

/-!
# YAML scalars

How a text is written as one YAML scalar: without quotes where it reads back as the same text, in
double quotes where it holds characters that cannot be printed, and in single quotes otherwise.
-/

namespace TraceScan.Yaml

/-! ## Double quotes -/

/-- Whether a character has to be escaped to be written at all. -/
def isUnprintable (c : Char) : Bool :=
  c.toNat < 32 || (0x7F ≤ c.toNat && c.toNat ≤ 0x9F) || c == '\ufeff' || c == '\ufffe' ||
    c == '\uffff'

/-- The last `width` hexadecimal digits of a number, in upper case. -/
def hexDigits : Nat → Nat → List Char
  | 0, _ => []
  | width + 1, n =>
    let d := n % 16
    hexDigits width (n / 16) ++ [if d < 10 then Char.ofNat (48 + d) else Char.ofNat (55 + d)]

/-- A character inside double quotes. -/
def escape (c : Char) : List Char :=
  if c == '"' then ['\\', '"']
  else if c == '\\' then ['\\', '\\']
  else if !isUnprintable c then [c]
  else
    match c.toNat with
    | 0x00 => ['\\', '0']
    | 0x07 => ['\\', 'a']
    | 0x08 => ['\\', 'b']
    | 0x09 => ['\\', 't']
    | 0x0A => ['\\', 'n']
    | 0x0B => ['\\', 'v']
    | 0x0C => ['\\', 'f']
    | 0x0D => ['\\', 'r']
    | 0x1B => ['\\', 'e']
    | 0x85 => ['\\', 'N']
    | n =>
      if n < 0x100 then '\\' :: 'x' :: hexDigits 2 n
      else if n < 0x10000 then '\\' :: 'u' :: hexDigits 4 n
      else '\\' :: 'U' :: hexDigits 8 n

/-! ## Scalars that read as something else -/

/-- The value of an integer with a sign and a base, or of decimal digits. -/
def isInteger (s : List Char) : Bool :=
  match s with
  | '-' :: rest => ((Document.unsigned? rest).filter (· ≤ Nat.pow 2 127)).isSome
  | '+' :: rest => ((Document.unsigned? rest).filter (· < Nat.pow 2 128)).isSome
  | rest => ((Document.unsigned? rest).filter (· < Nat.pow 2 128)).isSome

/-- Digits behind a needless zero, with or without a sign. -/
def isPaddedNumber (s : List Char) : Bool :=
  let digits := match s with
    | '-' :: rest => rest
    | '+' :: rest => rest
    | rest => rest
  match digits with
  | '0' :: c :: rest => (c :: rest).all Text.isPlainDigit
  | _ => false

/-- The decimal exponent at the start of a text that holds nothing else. -/
def exponent? : List Char → Option Int
  | [] => some 0
  | mark :: rest =>
    if mark == 'e' || mark == 'E' then
      match rest with
      | '-' :: digits => (Text.decimal? digits).map fun n => -(n : Int)
      | '+' :: digits => (Text.decimal? digits).map Int.ofNat
      | digits => (Text.decimal? digits).map Int.ofNat
    else none

/-- Whether `digits`, times ten to the power `shift`, rounds to a finite floating-point number of
64 bits: it lies below the middle between the largest one and the next power of two. -/
def isFiniteFloat (digits : List Char) (shift : Int) : Bool :=
  let significant := digits.dropWhile (· == '0')
  let value := (Text.decimal? significant).getD 0
  let magnitude := (significant.length : Int) + shift
  let limit := Nat.pow 2 1024 - Nat.pow 2 970
  if value == 0 || magnitude < 300 then true
  else if 310 < magnitude then false
  else decide (value * Nat.pow 10 shift.toNat < limit * Nat.pow 10 (-shift).toNat)

/-- Whether a text without a sign is a finite decimal fraction. -/
def isUnsignedFloat (s : List Char) : Bool :=
  let whole := s.takeWhile Text.isPlainDigit
  let rest := s.dropWhile Text.isPlainDigit
  let (fraction, rest) := match rest with
    | '.' :: rest => (rest.takeWhile Text.isPlainDigit, rest.dropWhile Text.isPlainDigit)
    | rest => ([], rest)
  let digits := whole ++ fraction
  match exponent? rest with
  | some e => !digits.isEmpty && isFiniteFloat digits (e - fraction.length)
  | none => false

/-- Whether a text reads as a floating-point number. -/
def isFloat (s : List Char) : Bool :=
  let infinite := fun (s : List Char) => [".inf", ".Inf", ".INF"].contains (String.ofList s)
  [".nan", ".NaN", ".NAN"].contains (String.ofList s) ||
    match s with
    | '-' :: rest => infinite rest || isUnsignedFloat rest
    | '+' :: rest => infinite rest || isUnsignedFloat rest
    | rest => infinite rest || isUnsignedFloat rest

/-- Whether a text without quotes would not read as a text. -/
def readsAsOther (s : String) : Bool :=
  Document.isPlainNull s || (Document.plainBool? s).isSome || isInteger s.toList ||
    isPaddedNumber s.toList || isFloat s.toList

/-! ## Scalars that would end early -/

/-- Whether some `mark` is followed by a blank or by the end of the text. -/
def endsBefore (mark : Char) : List Char → Bool
  | [] => false
  | c :: rest => (c == mark && rest.head?.all (· == ' ')) || endsBefore mark rest

/-- Whether some `#` stands behind a blank. -/
def startsComment : List Char → Bool
  | ' ' :: '#' :: _ => true
  | _ :: rest => startsComment rest
  | [] => false

/-- The characters that cannot start a scalar without quotes. -/
def indicators : List Char :=
  "#,[]\x7b\x7d&*!|>'\"%@\x60".toList

/-- Whether a text without quotes would be taken for something other than one scalar. -/
def breaksPlain (s : List Char) : Bool :=
  s.head? == some ' ' || s.getLast? == some ' ' || "---".toList.isPrefixOf s ||
    "...".toList.isPrefixOf s || s.head?.any indicators.contains ||
    (s.head? == some '?' && (s.drop 1).head?.all (· == ' ')) ||
    (s.head? == some '-' && (s.drop 1).head?.all (· == ' ')) ||
    endsBefore ':' s || startsComment s

/-! ## Writing -/

/-- A text as a scalar. -/
def quote (s : String) : List Char :=
  let chars := s.toList
  if chars.any isUnprintable then '"' :: (chars.flatMap escape ++ ['"'])
  else if readsAsOther s || breaksPlain chars then
    '\'' :: ((chars.flatMap fun c => if c == '\'' then ['\'', '\''] else [c]) ++ ['\''])
  else chars

end TraceScan.Yaml
