import TraceScan.Pattern.Basic
import TraceScan.Pattern.Error
import TraceScan.Text.Age
import TraceScan.Text.Category
import TraceScan.Text.Property
import TraceScan.Text.Script
import TraceScan.Text.ScriptExtension
import TraceScan.Text.Segmentation

/-!
# Escapes in patterns

The readers of what follows a backslash: literals, hexadecimal code points, classes, properties
and assertions. Each returns what it read and the text behind it. Between the characters of an
escape, blanks and comments are skipped where the flag `spaced` is set.
-/

namespace TraceScan.Pattern

/-! ## Flags -/

/-- The switches that `(?imsURux)` turns on and off. -/
structure Flags where
  caseless : Bool := false
  multiLine : Bool := false
  dotAll : Bool := false
  swapGreed : Bool := false
  /-- Both carriage return and line feed end lines. -/
  crlf : Bool := false
  /-- Blanks and comments mean nothing. -/
  spaced : Bool := false
  /-- Classes range over all characters, not only the plain ones. -/
  unicode : Bool := true

/-! ## Blanks and comments -/

/-- Skips blanks, and comments from `#` to the end of the line. -/
def skipAux (inComment : Bool) : List Char → List Char
  | [] => []
  | c :: rest =>
    if inComment then skipAux (c != '\n') rest
    else if Text.isBlank c then skipAux false rest
    else if c == '#' then skipAux true rest
    else c :: rest

/-- Skips what means nothing under the flag `spaced`. -/
def skip (spaced : Bool) (s : List Char) : List Char :=
  if spaced then skipAux false s else s

/-- Takes at most `most` characters that satisfy `p`, skipping after each. -/
def takeSkipping (spaced : Bool) (p : Char → Bool) : Nat → List Char → List Char × List Char
  | 0, s => ([], s)
  | _ + 1, [] => ([], [])
  | most + 1, c :: rest =>
    if p c then
      let (taken, behind) := takeSkipping spaced p most (skip spaced rest)
      (c :: taken, behind)
    else ([], c :: rest)

/-! ## Hexadecimal code points -/

/-- The value of a string of hexadecimal digits. -/
def hexValue (digits : List Char) : Nat :=
  digits.foldl (fun n c => 16 * n + (Text.hexDigit? c).getD 0) 0

/-- The character with the given code point. -/
def charOfCode? (n : Nat) : Option Char :=
  if n.isValidChar then some (Char.ofNat n) else none

/-- Whether a character is a hexadecimal digit. -/
def isHexDigit (c : Char) : Bool := (Text.hexDigit? c).isSome

/-- A code point of exactly `width` digits, or of any number of digits in braces. -/
def readHex (spaced : Bool) (width : Nat) (s : List Char) :
    Except PatternError (Char × List Char) := do
  let (digits, rest) ← match skip spaced s with
    | '\x7b' :: inner =>
      match takeSkipping spaced isHexDigit inner.length (skip spaced inner) with
      | ([], _) => throw .escapeHexInvalid
      | (digits, '\x7d' :: rest) => pure (digits, skip spaced rest)
      | _ => throw .escapeHexInvalid
    | s =>
      let (digits, rest) := takeSkipping spaced isHexDigit width s
      if digits.length = width then pure (digits, rest) else throw .escapeHexInvalid
  match charOfCode? (hexValue digits) with
  | some c => pure (c, rest)
  | none => throw .escapeHexInvalid

/-! ## Properties -/

/-- The name of a property without case, blanks, low lines, hyphens and a leading `is`. -/
def normalName (name : List Char) : String :=
  let withoutIs := match name with
    | a :: b :: rest => if a.toLower == 'i' && b.toLower == 's' then rest else name
    | _ => name
  let letters := (withoutIs.filter fun c =>
    c.toNat < 128 && !(c == ' ' || c == '_' || c == '-')).map Char.toLower
  if withoutIs.length < name.length && letters == ['c'] then "isc" else String.ofList letters

/-- The union of some tables. -/
def tables (ts : List Text.RangeTable) : CharSet :=
  .unions (ts.map .table)

/-- The characters below 128. -/
def plainSet : CharSet := .range '\x00' '\x7f'

/-- The general category of the given name. -/
def categorySet? (name : String) : Option CharSet :=
  match name with
  | "any" => some .any
  | "ascii" => some plainSet
  | "assigned" => some (.compl (.table Text.Category.unassigned))
  | _ => (Text.Category.named? name).map tables

/-- The script of the given name. -/
def scriptSet? (name : String) : Option CharSet :=
  (Text.Script.named? name).map .table

/-- The characters that a lone name stands for: a property, a category or a script. -/
def propertySet? (name : String) : Option CharSet :=
  let property :=
    if ["cf", "sc", "lc"].contains name then none
    else (Text.Property.named? name).map CharSet.table
  property.or ((categorySet? name).or (scriptSet? name))

/-- The characters that play a part in segmentation. -/
def segmentSet? (table : List (List String × Text.RangeTable)) (value : String) :
    Option CharSet :=
  (Text.Segmentation.named? table value).map .table

/-- The characters whose property `name` has the value `value`. -/
def propertyValueSet? (name value : String) : Option CharSet :=
  match name with
  | "gc" | "generalcategory" => categorySet? value
  | "sc" | "script" => scriptSet? value
  | "scx" | "scriptextensions" => (Text.ScriptExtension.named? value).map .table
  | "age" => (Text.Age.named? value).map tables
  | "gcb" | "graphemeclusterbreak" => segmentSet? Text.Segmentation.grapheme value
  | "wb" | "wordbreak" => segmentSet? Text.Segmentation.word value
  | "sb" | "sentencebreak" => segmentSet? Text.Segmentation.sentence value
  | _ => none

/-- Splits a text at the first occurrence of `mark`. -/
def splitAtMark? (mark : List Char) (before : List Char) :
    List Char → Option (List Char × List Char)
  | [] => none
  | c :: rest =>
    if mark.isPrefixOf (c :: rest) then
      some (before.reverse, (c :: rest).drop mark.length)
    else splitAtMark? mark (c :: before) rest

/-- The characters that the text between the braces of a property stands for. -/
def describedSet? (text : List Char) : Option CharSet :=
  match splitAtMark? ['!', '='] [] text with
  | some (name, value) => (propertyValueSet? (normalName name) (normalName value)).map .compl
  | none =>
    match (splitAtMark? [':'] [] text).or (splitAtMark? ['='] [] text) with
    | some (name, value) => propertyValueSet? (normalName name) (normalName value)
    | none => propertySet? (normalName text)

/-- The complement of a set, if `negated`. -/
def negate (negated : Bool) (set : CharSet) : CharSet :=
  if negated then .compl set else set

/-- A property: one letter, or a name or description in braces. -/
def readProperty (flags : Flags) (negated : Bool) (s : List Char) :
    Except PatternError (CharSet × List Char) := do
  let (text, rest) ← match skip flags.spaced s with
    | [] => throw .escapeUnfinished
    | '\x7b' :: inner =>
      match takeSkipping flags.spaced (· != '\x7d') inner.length (skip flags.spaced inner) with
      | (text, '\x7d' :: rest) => pure (text, rest)
      | _ => throw .escapeUnfinished
    | '\\' :: _ => throw .propertyUnknown
    | c :: rest => pure ([c], skip flags.spaced rest)
  if !flags.unicode then throw .notPlain
  match describedSet? text with
  | none => throw .propertyUnknown
  | some set => pure (negate negated (if flags.caseless then .folded set else set), rest)

/-! ## Classes of one letter -/

/-- The plain blanks: those below 128. -/
def plainBlank : CharSet := .union (.range '\t' '\r') (.single ' ')

/-- The plain word characters. -/
def plainWord : CharSet :=
  .unions [.range 'a' 'z', .range 'A' 'Z', .range '0' '9', .single '_']

/-- The class of a letter `d`, `s` or `w`, in upper case for the complement. -/
def letterClass? (flags : Flags) (c : Char) : Option (Except PatternError CharSet) :=
  let set? : Option (CharSet × CharSet) := match c.toLower with
    | 'd' => some (.digit, .range '0' '9')
    | 's' => some (.blank, plainBlank)
    | 'w' => some (.word, plainWord)
    | _ => none
  set?.map fun (all, plain) =>
    if flags.unicode then .ok (negate c.isUpper all)
    else if c.isUpper then .error .notPlain
    else .ok plain

/-! ## Escapes -/

/-- What a backslash and the characters after it stand for. -/
inductive Escape where
  /-- A character; `byte` if it was written as two hexadecimal digits. -/
  | literal (c : Char) (byte : Bool)
  | set (set : CharSet)
  | look (assertion : Assertion)

/-- The characters with a meaning of their own in patterns. -/
def isMeta (c : Char) : Bool :=
  "\\.+*?()|[]\x7b\x7d^$#&-~".toList.contains c

/-- The characters that a backslash turns into literals. -/
def isEscapable (c : Char) : Bool :=
  isMeta c ||
    (c.toNat < 128 && !(Text.isPlainLetter c || Text.isPlainDigit c || c == '<' || c == '>'))

/-- The assertion on word edges of the given kind. -/
def edgeLook (flags : Flags) (edge : WordEdge) : Escape :=
  .look (.wordEdge edge (!flags.unicode))

/-- A word boundary, perhaps with a kind in braces; braces around anything else are left. -/
def readWordEdge (flags : Flags) (s : List Char) : Except PatternError (Escape × List Char) :=
  let isNameChar := fun (c : Char) => Text.isPlainLetter c || c == '-'
  match s with
  | '\x7b' :: inner =>
    match skip flags.spaced inner with
    | [] => .error .wordEdgeUnknown
    | c :: rest =>
      if !isNameChar c then .ok (edgeLook flags .boundary, s)
      else
        match takeSkipping flags.spaced isNameChar inner.length (c :: rest) with
        | (name, '\x7d' :: behind) =>
          match String.ofList name with
          | "start" => .ok (edgeLook flags .start, behind)
          | "end" => .ok (edgeLook flags .stop, behind)
          | "start-half" => .ok (edgeLook flags .startHalf, behind)
          | "end-half" => .ok (edgeLook flags .stopHalf, behind)
          | _ => .error .wordEdgeUnknown
        | _ => .error .wordEdgeUnknown
  | _ => .ok (edgeLook flags .boundary, s)

/-- What the characters behind a backslash stand for. -/
def readEscape (flags : Flags) : List Char → Except PatternError (Escape × List Char)
  | [] => .error .escapeUnfinished
  | c :: rest =>
    if Text.isPlainDigit c then .error .backReference
    else if isEscapable c then .ok (.literal c false, rest)
    else
      match c with
      | 'x' => do
        let (d, behind) ← readHex flags.spaced 2 rest
        let byte := (skip flags.spaced rest).head? != some '\x7b'
        pure (.literal d byte, behind)
      | 'u' => do
        let (d, behind) ← readHex flags.spaced 4 rest
        pure (.literal d false, behind)
      | 'U' => do
        let (d, behind) ← readHex flags.spaced 8 rest
        pure (.literal d false, behind)
      | 'p' | 'P' => do
        let (set, behind) ← readProperty flags (c == 'P') rest
        pure (.set set, behind)
      | 'a' => .ok (.literal '\x07' false, rest)
      | 'f' => .ok (.literal '\x0c' false, rest)
      | 't' => .ok (.literal '\t' false, rest)
      | 'n' => .ok (.literal '\n' false, rest)
      | 'r' => .ok (.literal '\r' false, rest)
      | 'v' => .ok (.literal '\x0b' false, rest)
      | 'A' => .ok (.look .textStart, rest)
      | 'z' => .ok (.look .textEnd, rest)
      | 'b' => readWordEdge flags rest
      | 'B' => .ok (edgeLook flags .inside, rest)
      | '<' => .ok (edgeLook flags .start, rest)
      | '>' => .ok (edgeLook flags .stop, rest)
      | _ =>
        match letterClass? flags c with
        | some (.ok set) => .ok (.set set, rest)
        | some (.error e) => .error e
        | none => .error .escapeUnknown

end TraceScan.Pattern
