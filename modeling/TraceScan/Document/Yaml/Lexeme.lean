import TraceScan.Document.Basic

/-!
# The lexemes of YAML

Gaps between the parts of a document, and the scalars: without quotes, in quotes, and as blocks of
lines. Each reader takes what it reads off the start of a text and hands back the rest. Line breaks
are single `\n`.
-/

namespace TraceScan.Yaml

/-! ## Characters -/

/-- Whether a character separates the parts of a line. -/
def isSpace (c : Char) : Bool :=
  c == ' ' || c == '\t'

/-- The text behind the blanks. -/
def skipSpace (s : List Char) : List Char :=
  s.dropWhile isSpace

/-- Whether a text is at its end, at the end of a line or at a blank. -/
def atBlank : List Char → Bool
  | [] => true
  | c :: _ => isSpace c || c == '\n'

/-- Whether a text is at its end or at the end of a line. -/
def atLineEnd : List Char → Bool
  | [] => true
  | c :: _ => c == '\n'

/-- Whether a character opens, closes or separates the items of a collection in brackets. -/
def isBracket (c : Char) : Bool :=
  [',', '[', ']', '\x7b', '\x7d'].contains c

/-- Whether a text starts with three marks that begin or end a document. -/
def isMarker (mark : Char) : List Char → Bool
  | a :: b :: c :: rest => a == mark && b == mark && c == mark && atBlank rest
  | _ => false

/-! ## Gaps -/

/-- The blanks, comments and line breaks between two parts of a document. -/
structure Gap where
  /-- The column of what follows, if a line break was crossed. -/
  column : Option Nat
  /-- The number of blanks in front of what follows. -/
  blanks : Nat
  /-- What follows. -/
  rest : List Char

/-- Whether the document ends behind the gap. -/
def Gap.atEnd (g : Gap) : Bool :=
  g.rest.isEmpty || (g.column == some 0 && (isMarker '-' g.rest || isMarker '.' g.rest))

/-- Reads a gap; `fresh` tells whether a line break was crossed, `comment` whether a comment is
being read. Outside of brackets, no tab may stand where lines are indented. -/
def readGap (inBrackets : Bool) (fresh : Bool) (comment : Bool) (blanks : Nat) :
    List Char → Option Gap
  | [] => some ⟨if fresh then some blanks else none, blanks, []⟩
  | c :: rest =>
    if c == '\n' then readGap inBrackets true false 0 rest
    else if comment then readGap inBrackets fresh true blanks rest
    else if c == ' ' then readGap inBrackets fresh false (blanks + 1) rest
    else if c == '\t' then
      if fresh && !inBrackets then none else readGap inBrackets fresh false (blanks + 1) rest
    else if c == '#' then readGap inBrackets fresh true blanks rest
    else some ⟨if fresh then some blanks else none, blanks, c :: rest⟩

/-- The gap at the start of a text. -/
def gap? (inBrackets : Bool) (s : List Char) : Option Gap :=
  readGap inBrackets false false 0 s

/-- The gap at the start of a line. -/
def lineGap? (s : List Char) : Option Gap :=
  readGap false true false 0 s

/-! ## Folding -/

/-- What some line breaks in a row stand for inside a scalar: a single one for a blank, and more
for one line break less. -/
def folded (breaks : Nat) : List Char :=
  if breaks = 1 then [' '] else List.replicate (breaks - 1) '\n'

/-- Skips blanks and line breaks, counting the latter and the blanks behind the last of them. -/
def skipBreaks (breaks blanks : Nat) : List Char → Nat × Nat × List Char
  | [] => (breaks, blanks, [])
  | c :: rest =>
    if c == '\n' then skipBreaks (breaks + 1) 0 rest
    else if isSpace c then skipBreaks breaks (blanks + 1) rest
    else (breaks, blanks, c :: rest)

/-! ## Scalars in quotes -/

/-- The character with a code point of `width` hexadecimal digits. -/
def codePoint? (width : Nat) (s : List Char) : Option (Char × List Char) := do
  let digits := s.take width
  if digits.length < width then none
  let n ← Document.inBase? 16 digits
  if n.isValidChar then some (Char.ofNat n, s.drop width) else none

/-- The character that stands behind a backslash. -/
def unescape? : List Char → Option (Char × List Char)
  | [] => none
  | c :: rest =>
    match c with
    | '0' => some ('\x00', rest)
    | 'a' => some ('\x07', rest)
    | 'b' => some ('\x08', rest)
    | 't' => some ('\t', rest)
    | '\t' => some ('\t', rest)
    | 'n' => some ('\n', rest)
    | 'v' => some ('\x0b', rest)
    | 'f' => some ('\x0c', rest)
    | 'r' => some ('\r', rest)
    | 'e' => some ('\x1b', rest)
    | ' ' => some (' ', rest)
    | '"' => some ('"', rest)
    | '/' => some ('/', rest)
    | '\\' => some ('\\', rest)
    | 'N' => some ('\u0085', rest)
    | '_' => some ('\u00a0', rest)
    | 'L' => some ('\u2028', rest)
    | 'P' => some ('\u2029', rest)
    | 'x' => codePoint? 2 rest
    | 'u' => codePoint? 4 rest
    | 'U' => codePoint? 8 rest
    | _ => none

/-- Reads a scalar in quotes of the given kind up to its end. Line breaks fold, with the blanks
around them. In double quotes, a backslash escapes a character or a line break. -/
def readQuoted (quote : Char) : Nat → List Char → Option (List Char × List Char)
  | 0, _ => none
  | _ + 1, [] => none
  | fuel + 1, c :: rest =>
    if c == quote then
      match quote, rest with
      | '\'', '\'' :: rest => do
        let (text, rest) ← readQuoted quote fuel rest
        pure ('\'' :: text, rest)
      | _, rest => some ([], rest)
    else if c == '\\' && quote == '"' then
      match skipSpace rest with
      | '\n' :: behind =>
        if atLineEnd rest then do
          let (breaks, _, behind) := skipBreaks 0 0 behind
          let (text, rest) ← readQuoted quote fuel behind
          pure (List.replicate breaks '\n' ++ text, rest)
        else do
          let (d, rest) ← unescape? rest
          let (text, rest) ← readQuoted quote fuel rest
          pure (d :: text, rest)
      | _ => do
        let (d, rest) ← unescape? rest
        let (text, rest) ← readQuoted quote fuel rest
        pure (d :: text, rest)
    else if isSpace c || c == '\n' then
      let (breaks, _, behind) := skipBreaks 0 0 (c :: rest)
      if breaks = 0 then do
        let (text, rest) ← readQuoted quote fuel rest
        pure (c :: text, rest)
      else do
        let (text, rest) ← readQuoted quote fuel behind
        pure (folded breaks ++ text, rest)
    else do
      let (text, rest) ← readQuoted quote fuel rest
      pure (c :: text, rest)

/-! ## Scalars without quotes -/

/-- Whether a scalar without quotes ends here: at the end of the line, at a colon with a blank
behind it, or at a bracket inside brackets. -/
def endsPlain (inBrackets : Bool) : List Char → Bool
  | [] => true
  | c :: rest =>
    c == '\n' || (c == ':' && (atBlank rest || (inBrackets && rest.head?.any isBracket))) ||
      (inBrackets && isBracket c)

/-- The part of a scalar without quotes that stands in one line. It does not end in blanks. -/
def plainRun (inBrackets : Bool) : List Char → List Char × List Char
  | [] => ([], [])
  | c :: rest =>
    if endsPlain inBrackets (c :: rest) then ([], c :: rest)
    else if isSpace c && (endsPlain inBrackets (skipSpace rest) ||
        (skipSpace rest).head? == some '#') then ([], c :: rest)
    else
      let (text, behind) := plainRun inBrackets rest
      (c :: text, behind)

/-- Whether a scalar without quotes may start here. -/
def startsPlain (inBrackets : Bool) : List Char → Bool
  | [] => false
  | c :: rest =>
    if c == '-' then !atBlank rest && !(inBrackets && rest.head?.any isBracket)
    else if c == '?' || c == ':' then !inBrackets && !atBlank rest
    else !(isBracket c || "#&*!|>'\"%@\x60".toList.contains c)

/-- The lines by which a scalar without quotes goes on. Outside of brackets, they are indented by
at least `least` blanks. -/
def plainMore (inBrackets : Bool) (least : Nat) : Nat → List Char → List Char × List Char
  | 0, s => ([], s)
  | fuel + 1, s =>
    let (breaks, blanks, behind) := skipBreaks 0 0 s
    let (run, rest) := plainRun inBrackets behind
    let marker := blanks == 0 && (isMarker '-' behind || isMarker '.' behind)
    if breaks = 0 || run.isEmpty || behind.head? == some '#' || marker ||
        (!inBrackets && blanks < least) then ([], s)
    else
      let (text, rest) := plainMore inBrackets least fuel rest
      (folded breaks ++ run ++ text, rest)

/-- Reads a scalar without quotes. -/
def readPlain? (inBrackets : Bool) (least : Nat) (s : List Char) :
    Option (List Char × List Char) :=
  if startsPlain inBrackets s then
    let (run, rest) := plainRun inBrackets s
    let (text, rest) := plainMore inBrackets least (rest.length + 1) rest
    some (run ++ text, rest)
  else none

/-! ## Scalars in blocks of lines -/

/-- What happens to the line breaks at the end of a block. -/
inductive Chomping where
  | strip
  | clip
  | keep
  deriving DecidableEq, Repr

/-- Reads the marks behind the start of a block: the chomping and the indentation. -/
def readMarks : List Char → Chomping × Option Nat × List Char
  | a :: b :: rest =>
    let chomping? := fun (c : Char) =>
      if c == '+' then some Chomping.keep else if c == '-' then some Chomping.strip else none
    let width? := fun (c : Char) =>
      if '1' ≤ c && c ≤ '9' then some (c.toNat - '0'.toNat) else none
    match chomping? a, width? a, chomping? b, width? b with
    | some k, _, _, some n => (k, some n, rest)
    | _, some n, some k, _ => (k, some n, rest)
    | some k, _, _, _ => (k, none, b :: rest)
    | _, some n, _, _ => (.clip, some n, b :: rest)
    | _, _, _, _ => (.clip, none, a :: b :: rest)
  | ['+'] => (.keep, none, [])
  | ['-'] => (.strip, none, [])
  | s => (.clip, none, s)

/-- The lines of a text. -/
def linesOf : List Char → List (List Char)
  | [] => [[]]
  | c :: rest =>
    match c == '\n', linesOf rest with
    | true, lines => [] :: lines
    | false, line :: lines => (c :: line) :: lines
    | false, [] => [[c]]

/-- The number of blanks at the start of a line. -/
def indentation (line : List Char) : Nat :=
  (line.takeWhile (· == ' ')).length

/-- The indentation of a block: that of its first line with text, or of the longest empty line
before it. -/
def blockIndentation (least : Nat) : List (List Char) → Nat
  | [] => least
  | line :: lines =>
    let width := indentation line
    if (line.drop width).isEmpty && !lines.isEmpty then blockIndentation (max least width) lines
    else max least width

/-- Splits off the lines that belong to a block, without their indentation. -/
def splitBlock (width : Nat) : List (List Char) → List (List Char) × List (List Char)
  | [] => ([], [])
  | line :: lines =>
    let inner := (line.takeWhile (· == ' ')).take width
    let text := line.drop inner.length
    if inner.length < width && !text.isEmpty then ([], line :: lines)
    else
      let (block, behind) := splitBlock width lines
      (text :: block, behind)

/-- The text of the lines of a block, from the first line on that is not empty. `last` tells
whether the line before them starts with a blank, and `breaks` how many breaks lie between. -/
def joinBlock (literal : Bool) (last : Option Bool) (breaks : Nat) :
    List (List Char) → List Char × Nat
  | [] => ([], breaks)
  | line :: lines =>
    if line.isEmpty then joinBlock literal last (breaks + 1) lines
    else
      let indented := line.head?.any isSpace
      let between := match last with
        | none => List.replicate breaks '\n'
        | some before =>
          if literal || before || indented then List.replicate breaks '\n' else folded breaks
      let (text, ending) := joinBlock literal (some indented) 1 lines
      (between ++ line ++ text, ending)

/-- Reads a scalar in a block of lines, behind the mark that starts it. The block lies inside
something indented by less than `least`. -/
def readBlock? (literal : Bool) (least : Nat) (s : List Char) :
    Option (List Char × List Char) := do
  let (chomping, width?, rest) := readMarks s
  let comment := fun (s : List Char) => s.dropWhile (· != '\n')
  let body ← match skipSpace rest with
    | [] => some none
    | '\n' :: body => some (some body)
    | '#' :: behind =>
      match comment behind with
      | '\n' :: body => some (some body)
      | _ => some none
    | _ => none
  match body with
  | none => some ([], [])
  | some body =>
    let lines := linesOf body
    let width := match width? with
      | some n => (least - 1) + n
      | none => blockIndentation (max least 1) lines
    let (block, behind) := splitBlock width lines
    let (text, breaks) := joinBlock literal none 0 block
    let breaks := if behind.isEmpty then breaks - 1 else breaks
    let ending := match chomping with
      | .strip => 0
      | .clip => if text.isEmpty then 0 else min breaks 1
      | .keep => breaks
    let rest := behind.flatMap fun line => '\n' :: line
    some (text ++ List.replicate ending '\n', rest)

end TraceScan.Yaml
