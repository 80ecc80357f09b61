import TraceScan.Pattern.Bracket
import TraceScan.Text.Numeral

/-!
# Reading patterns

The dialect in which patterns are written: groups, named groups and flags, alternatives, greedy and
lazy repetition, classes, escapes and assertions. There is no look-around and no back-reference, and
every sign that could mean nothing is refused.
-/

namespace TraceScan.Pattern

/-! ## Repetition -/

/-- The rounds that a repetition allows, from `least` to `most`. -/
def repeated (least : Nat) (most : Option Nat) (greedy : Bool) (p : Pattern) : Pattern :=
  let (least, most) :=
    if p.takesNothing then (min least 1, some ((most.map (min · 1)).getD 1)) else (least, most)
  let unbounded := match p with
    | one set => seq (one set) (span set greedy)
    | p => many p greedy
  match most, least with
  | some 0, _ => empty
  | some 1, 0 => if greedy then alt p empty else alt empty p
  | some 1, 1 => p
  | some n, 0 => upTo n p greedy
  | some n, least =>
    if least = n then copies n p else seq (copies least p) (upTo (n - least) p greedy)
  | none, 0 =>
    match p with
    | one set => span set greedy
    | p => if greedy then alt (many p true) empty else alt empty (many p false)
  | none, 1 => unbounded
  | none, least => seq (copies (least - 1) p) unbounded

/-- A number of rounds; blanks around the digits mean nothing. -/
def readCount (flags : Flags) (s : List Char) :
    Except PatternError (Option Nat × List Char) :=
  let (digits, rest) :=
    takeSkipping flags.spaced Text.isPlainDigit s.length (s.dropWhile Text.isBlank)
  let rest := skip flags.spaced (rest.dropWhile Text.isBlank)
  match digits with
  | [] => .ok (none, rest)
  | digits =>
    match Text.numeral? Text.largest32 digits with
    | some n => .ok (some n, rest)
    | none => .error .repetitionInvalid

/-- The bounds of a counted repetition, from behind its opening brace to behind its closing one. -/
def readBounds (flags : Flags) (s : List Char) :
    Except PatternError ((Nat × Option Nat) × List Char) := do
  match ← readCount flags (skip flags.spaced s) with
  | (some n, '\x7d' :: rest) => pure ((n, some n), rest)
  | (some least, ',' :: rest) =>
    match skip flags.spaced rest with
    | '\x7d' :: behind => pure ((least, none), behind)
    | rest =>
      match ← readCount flags rest with
      | (some most, '\x7d' :: behind) =>
        if least ≤ most then pure ((least, some most), behind) else throw .repetitionInvalid
      | _ => throw .repetitionInvalid
  | _ => throw .repetitionInvalid

/-! ## Pieces -/

/-- A piece of a concatenation. -/
structure Piece where
  pattern : Pattern
  /-- How deep the constructions in the piece are nested. -/
  depth : Nat
  /-- Whether a repetition may follow; flags cannot be repeated. -/
  repeatable : Bool := true

/-- The sequence of some patterns. -/
def seqOf : List Pattern → Pattern
  | [] => empty
  | [p] => p
  | p :: rest => seq p (seqOf rest)

/-- The choice between some patterns. -/
def altOf : List Pattern → Pattern
  | [] => empty
  | [p] => p
  | p :: rest => alt p (altOf rest)

/-- The pieces, latest first, as one. -/
def concatenation (pieces : List Piece) : Piece :=
  ⟨seqOf (pieces.reverse.map Piece.pattern), depthOf (pieces.map Piece.depth), true⟩

/-- The branches, latest first, as one. -/
def alternation (branches : List Piece) : Piece :=
  ⟨altOf (branches.reverse.map Piece.pattern), depthOf (branches.map Piece.depth), true⟩

/-- One literal character. -/
def literal (flags : Flags) (c : Char) (byte : Bool) : Except PatternError Pattern :=
  if !flags.unicode && byte && 128 ≤ c.toNat then .error .notPlain
  else if !flags.caseless then .ok (one (.single c))
  else if flags.unicode then
    if (Text.caseVariants c).all (· == c) then .ok (one (.single c))
    else .ok (one (.folded (.single c)))
  else if Text.isPlainLetter c then
    .ok (one (.union (.single c.toLower) (.single c.toUpper)))
  else .ok (one (.single c))

/-- The characters that a full stop stands for. -/
def anyCharacter (flags : Flags) : Except PatternError Pattern :=
  if !flags.unicode then .error .notPlain
  else if flags.dotAll then .ok (one .any)
  else if flags.crlf then .ok (one (.compl (.union (.single '\n') (.single '\r'))))
  else .ok (one (.compl (.single '\n')))

/-- What `^` asserts. -/
def startLook (flags : Flags) : Assertion :=
  if !flags.multiLine then .textStart else if flags.crlf then .lineStartAny else .lineStart

/-- What `$` asserts. -/
def endLook (flags : Flags) : Assertion :=
  if !flags.multiLine then .textEnd else if flags.crlf then .lineEndAny else .lineEnd

/-! ## Groups -/

/-- A group that has been opened, with what was read before it. -/
structure OpenGroup where
  /-- The number of a group that keeps its text. -/
  index : Option Nat
  /-- The flags in force around the group. -/
  flags : Flags
  pieces : List Piece
  branches : List Piece

/-- How far the reading of a pattern has come. -/
structure Progress where
  flags : Flags := {}
  /-- The pieces of the branch that is being read, latest first. -/
  pieces : List Piece := []
  /-- The finished branches of the group that is being read, latest first. -/
  branches : List Piece := []
  /-- The open groups, innermost first. -/
  groups : List OpenGroup := []
  /-- How many numbered groups have been opened. -/
  count : Nat := 0
  names : List (List Char) := []

namespace Progress

/-- One more piece. -/
def add (r : Progress) (p : Pattern) (depth : Nat) : Progress :=
  { r with pieces := ⟨p, depth, true⟩ :: r.pieces }

/-- The whole of the group that is being read. -/
def whole (r : Progress) : Piece :=
  alternation (concatenation r.pieces :: r.branches)

/-- The start of a further branch. -/
def branch (r : Progress) : Progress :=
  { r with pieces := [], branches := concatenation r.pieces :: r.branches }

/-- The start of a group, with the flags that hold in it. -/
def enter (r : Progress) (index : Option Nat) (flags : Flags) : Progress :=
  { r with
    flags := flags
    pieces := []
    branches := []
    groups := ⟨index, r.flags, r.pieces, r.branches⟩ :: r.groups }

/-- The start of a numbered group. -/
def enterNumbered (r : Progress) : Progress :=
  { r.enter (some (r.count + 1)) r.flags with count := r.count + 1 }

/-- The end of the innermost group. -/
def leave (r : Progress) : Except PatternError Progress :=
  match r.groups with
  | [] => .error .groupUnopened
  | g :: outer =>
    let body := r.whole
    let pattern := match g.index with
      | some i => group i body.pattern
      | none => body.pattern
    .ok { r with
      flags := g.flags
      pieces := ⟨pattern, body.depth + 1, true⟩ :: g.pieces
      branches := g.branches
      groups := outer }

/-- The last piece, repeated. -/
def repeatLast (r : Progress) (least : Nat) (most : Option Nat) (greedy : Bool) :
    Except PatternError Progress :=
  match r.pieces with
  | piece :: earlier =>
    if piece.repeatable then
      let p := repeated least most (greedy != r.flags.swapGreed) piece.pattern
      .ok { r with pieces := ⟨p, piece.depth + 1, true⟩ :: earlier }
    else .error .repetitionMissing
  | [] => .error .repetitionMissing

end Progress

/-- The flag of a letter, switched on or off. -/
def setFlag? (flags : Flags) (on : Bool) (letter : Char) : Option Flags :=
  match letter with
  | 'i' => some { flags with caseless := on }
  | 'm' => some { flags with multiLine := on }
  | 's' => some { flags with dotAll := on }
  | 'U' => some { flags with swapGreed := on }
  | 'u' => some { flags with unicode := on }
  | 'R' => some { flags with crlf := on }
  | 'x' => some { flags with spaced := on }
  | _ => none

/-- Reads flags up to `:` or `)`; each letter and the sign `-` may stand once. -/
def readFlags (flags : Flags) (seen : List Char) :
    List Char → Except PatternError ((Flags × List Char) × List Char)
  | [] => .error .flagsInvalid
  | ':' :: rest =>
    if seen.head? == some '-' then .error .flagsInvalid else .ok ((flags, seen), ':' :: rest)
  | ')' :: rest =>
    if seen.head? == some '-' then .error .flagsInvalid else .ok ((flags, seen), ')' :: rest)
  | c :: rest =>
    if seen.contains c then .error .flagsInvalid
    else if c == '-' then readFlags flags ('-' :: seen) rest
    else
      match setFlag? flags (!seen.contains '-') c with
      | some flags => readFlags flags (c :: seen) rest
      | none => .error .flagsInvalid

/-- Whether a character may stand in the name of a group. -/
def isNameChar (first : Bool) (c : Char) : Bool :=
  let isLetter := Text.Property.alphabetic.mem c
  c == '_' || isLetter ||
    (!first &&
      (c == '.' || c == '[' || c == ']' || Text.isDigit c ||
        Text.Category.letterNumber.mem c || Text.Category.otherNumber.mem c))

/-- The name of a group, up to the closing angle bracket. -/
def readGroupName (s : List Char) : Except PatternError (List Char × List Char) :=
  match s.takeWhile (· != '>'), s.dropWhile (· != '>') with
  | c :: name, _ :: rest =>
    if isNameChar true c && name.all (isNameChar false) then .ok (c :: name, rest)
    else .error .groupNameInvalid
  | _, _ => .error .groupNameInvalid

/-- The start of a group, from behind its parenthesis, or a change of flags. -/
def readGroup (r : Progress) (s : List Char) : Except PatternError (Progress × List Char) := do
  let named := fun (s : List Char) => do
    let (name, rest) ← readGroupName s
    if r.names.contains name then throw .groupNameRepeated
    pure ({ r.enterNumbered with names := name :: r.names }, rest)
  match skip r.flags.spaced s with
  | '?' :: '=' :: _ | '?' :: '!' :: _ => throw .lookAround
  | '?' :: '<' :: '=' :: _ | '?' :: '<' :: '!' :: _ => throw .lookAround
  | '?' :: 'P' :: '<' :: rest => named rest
  | '?' :: '<' :: rest => named rest
  | '?' :: rest =>
    match ← readFlags r.flags [] rest with
    | ((flags, _), ':' :: behind) => pure (r.enter none flags, behind)
    | ((_, []), _) => throw .repetitionMissing
    | ((flags, _), behind) =>
      pure ({ r with flags := flags, pieces := ⟨empty, 0, false⟩ :: r.pieces }, behind.tail)
  | rest => pure (r.enterNumbered, rest)

/-! ## Whole patterns -/

/-- Whether a question mark makes a repetition lazy, and what follows it. -/
def readGreed : List Char → Bool × List Char
  | '?' :: rest => (false, rest)
  | rest => (true, rest)

/-- Reads one construction. -/
def readStep (r : Progress) : List Char → Except PatternError (Progress × List Char)
  | [] => .ok (r, [])
  | '(' :: rest => readGroup r rest
  | ')' :: rest => do pure (← r.leave, rest)
  | '|' :: rest => .ok (r.branch, rest)
  | '[' :: rest => do
    let (item, behind) ← readBracket r.flags rest
    pure (r.add (one item.set) item.depth, behind)
  | '?' :: rest => do
    let (greedy, behind) := readGreed rest
    pure (← r.repeatLast 0 (some 1) greedy, behind)
  | '*' :: rest => do
    let (greedy, behind) := readGreed rest
    pure (← r.repeatLast 0 none greedy, behind)
  | '+' :: rest => do
    let (greedy, behind) := readGreed rest
    pure (← r.repeatLast 1 none greedy, behind)
  | '\x7b' :: rest => do
    let ((least, most), behind) ← readBounds r.flags rest
    let (greedy, behind) := readGreed (skip r.flags.spaced behind)
    pure (← r.repeatLast least most greedy, behind)
  | '.' :: rest => do pure (r.add (← anyCharacter r.flags) 0, rest)
  | '^' :: rest => .ok (r.add (look (startLook r.flags)) 0, rest)
  | '$' :: rest => .ok (r.add (look (endLook r.flags)) 0, rest)
  | '\\' :: rest => do
    match ← readEscape r.flags rest with
    | (.literal c byte, behind) => pure (r.add (← literal r.flags c byte) 0, behind)
    | (.set set, behind) => pure (r.add (one set) 0, behind)
    | (.look a, behind) => pure (r.add (look a) 0, behind)
  | c :: rest => do pure (r.add (← literal r.flags c false) 0, rest)

/-- Reads constructions until the text ends, at most `fuel` of them. -/
def readAux : Nat → Progress → List Char → Except PatternError Progress
  | 0, r, _ => .ok r
  | fuel + 1, r, s =>
    match skip r.flags.spaced s with
    | [] => .ok r
    | s => do
      let (r, rest) ← readStep r s
      readAux fuel r rest

/-! ## Limits -/

/-- The deepest nesting of constructions. -/
def deepest : Nat := 250

/-- The largest size of a pattern, in the bytes that an automaton for it would take. -/
def largest : Nat := 10 * 1024 * 1024

/-- The size of a set, by how many byte sequences it takes to tell its members. -/
def setSize : CharSet → Nat
  | .empty | .range _ _ => 40
  | .any => 500
  | .blank => 800
  | .digit => 3000
  | .word => 50000
  | .table ranges => 64 * ranges.ranges.size
  | .union s t | .inter s t => setSize s + setSize t
  | .compl s => 600 + setSize s
  | .folded s => 2 * setSize s

/-- The size of a pattern with every repetition written out. -/
def size : Pattern → Nat
  | empty | look _ => 32
  | one set => setSize set
  | span set _ => 64 + setSize set
  | seq p q => p.size + q.size
  | alt p q => 64 + p.size + q.size
  | group _ p => 64 + p.size
  | many p _ => 64 + p.size
  | copies n p => n * p.size
  | upTo n p _ => n * (64 + p.size)

/-- The pattern that a text denotes. -/
def read (text : String) : Except PatternError Pattern := do
  let s := text.toList
  let r ← readAux s.length {} s
  if r.groups.isEmpty then
    let whole := r.whole
    if deepest < whole.depth then throw .tooDeep
    else if largest < whole.pattern.size then throw .tooLarge
    else pure whole.pattern
  else throw .groupUnclosed

end TraceScan.Pattern
