import TraceScan.Pattern.Escape

/-!
# Bracketed classes

The reader of `[...]`: characters, ranges, escapes, classes such as `[:alpha:]` and nested brackets,
joined by union and by the operations `&&`, `--` and `~~`, which group from the left.
-/

namespace TraceScan.Pattern

/-! ## Named classes of plain characters -/

/-- The class that `[:name:]` stands for. -/
def plainClass? (name : String) : Option CharSet :=
  let upper := CharSet.range 'A' 'Z'
  let lower := CharSet.range 'a' 'z'
  let numeric := CharSet.range '0' '9'
  match name with
  | "alnum" => some (.unions [numeric, upper, lower])
  | "alpha" => some (.unions [upper, lower])
  | "ascii" => some plainSet
  | "blank" => some (.unions [.single '\t', .single ' '])
  | "cntrl" => some (.unions [.range '\x00' '\x1f', .single '\x7f'])
  | "digit" => some numeric
  | "graph" => some (.range '!' '~')
  | "lower" => some lower
  | "print" => some (.range ' ' '~')
  | "punct" =>
    some (.unions [.range '!' '/', .range ':' '@', .range '[' (Char.ofNat 0x60),
      .range '\x7b' '~'])
  | "space" => some plainBlank
  | "upper" => some upper
  | "word" => some plainWord
  | "xdigit" => some (.unions [numeric, .range 'A' 'F', .range 'a' 'f'])
  | _ => none

/-- The set without regard to case, if the flags say so. -/
def foldSet (flags : Flags) (set : CharSet) : CharSet :=
  if !flags.caseless then set
  else if flags.unicode then .folded set
  else .inter (.folded set) plainSet

/-- The set with case and negation applied; plain sets have no complement. -/
def finishSet (flags : Flags) (negated : Bool) (set : CharSet) : Except PatternError CharSet :=
  if negated && !flags.unicode then .error .notPlain
  else .ok (negate negated (foldSet flags set))

/-- A class such as `[:alpha:]` at the start of a text, with its negation and what follows. -/
def namedClass? : List Char → Option (Bool × CharSet × List Char)
  | '[' :: ':' :: rest =>
    let (negated, rest) := match rest with
      | '^' :: rest => (true, rest)
      | rest => (false, rest)
    match rest.dropWhile (· != ':') with
    | ':' :: ']' :: behind =>
      (plainClass? (String.ofList (rest.takeWhile (· != ':')))).map (negated, ·, behind)
    | _ => none
  | _ => none

/-! ## Depth -/

/-- How deep a row of parts is nested, given the depth of each part. One part alone adds nothing. -/
def depthOf : List Nat → Nat
  | [] => 0
  | [depth] => depth
  | depths => 1 + depths.foldl max 0

/-! ## Items -/

/-- An item of a bracket. -/
structure ClassItem where
  set : CharSet
  /-- How deep the brackets, the unions and the operations in the item are nested. Characters,
  ranges, escapes and named classes have none. -/
  depth : Nat

/-- The operations on sets. -/
inductive SetOp where
  | inter
  | diff
  | symmDiff

/-- The result of an operation. -/
def SetOp.apply : SetOp → CharSet → CharSet → CharSet
  | .inter, s, t => .inter s t
  | .diff, s, t => .diff s t
  | .symmDiff, s, t => .symmDiff s t

/-- A bracket that is being read. -/
structure OpenSet where
  negated : Bool
  /-- The items of the union that is being read, latest first. -/
  items : List ClassItem
  /-- The operation before that union and its left side. -/
  pending : Option (SetOp × ClassItem)

namespace OpenSet

/-- The bracket with one more item. -/
def add (o : OpenSet) (item : ClassItem) : OpenSet :=
  { o with items := item :: o.items }

/-- The union that is being read. -/
def union (o : OpenSet) : ClassItem :=
  ⟨.unions (o.items.reverse.map ClassItem.set), depthOf (o.items.map ClassItem.depth)⟩

/-- What was read so far, without negation. -/
def value (flags : Flags) (o : OpenSet) : ClassItem :=
  match o.pending with
  | none => o.union
  | some (op, left) =>
    ⟨op.apply (foldSet flags left.set) (foldSet flags o.union.set),
      1 + max left.depth o.union.depth⟩

/-- The finished bracket, which is one level deeper than what is in it. -/
def close (flags : Flags) (o : OpenSet) : Except PatternError ClassItem := do
  let body := o.value flags
  let set ← finishSet flags o.negated body.set
  pure ⟨set, 1 + body.depth⟩

/-- The bracket after an operation sign. -/
def operate (flags : Flags) (op : SetOp) (o : OpenSet) : OpenSet :=
  { o with items := [], pending := some (op, o.value flags) }

end OpenSet

/-- A literal in a bracket; without Unicode it has to be plain. -/
def classLiteral (flags : Flags) (c : Char) : Except PatternError Char :=
  if flags.unicode || c.toNat < 128 then .ok c else .error .notPlain

/-- A character or an escape in a bracket. -/
def readClassItem (flags : Flags) : List Char → Except PatternError (Escape × List Char)
  | [] => .error .classUnclosed
  | '\\' :: rest => readEscape flags rest
  | c :: rest => .ok (.literal c false, rest)

/-- A character, an escape or a range in a bracket. -/
def readClassRange (flags : Flags) (s : List Char) :
    Except PatternError (CharSet × List Char) := do
  let (first, rest) ← readClassItem flags s
  let rest := skip flags.spaced rest
  let isRange := match rest with
    | '-' :: behind =>
      match skip flags.spaced behind with
      | ']' :: _ | '-' :: _ => false
      | _ => true
    | _ => false
  if isRange then
    let (last, behind) ← readClassItem flags (skip flags.spaced rest.tail)
    match first, last with
    | .literal a _, .literal b _ =>
      let a ← classLiteral flags a
      let b ← classLiteral flags b
      if a ≤ b then pure (.range a b, behind) else throw .classRangeInvalid
    | _, _ => throw .classRangeInvalid
  else
    match first with
    | .literal c _ => do
      let c ← classLiteral flags c
      pure (.single c, rest)
    | .set set => pure (set, rest)
    | .look _ => throw .classItemInvalid

/-! ## Brackets -/

/-- Hyphens at the start of a bracket, which are literals. -/
def readHyphens (spaced : Bool) : Nat → OpenSet → List Char → OpenSet × List Char
  | fuel + 1, o, '-' :: rest => readHyphens spaced fuel (o.add ⟨.single '-', 0⟩) (skip spaced rest)
  | _, o, s => (o, s)

/-- The start of a bracket: negation, hyphens, and a closing bracket that is a literal. -/
def readOpening (flags : Flags) (s : List Char) : OpenSet × List Char :=
  let (negated, s) := match skip flags.spaced s with
    | '^' :: rest => (true, skip flags.spaced rest)
    | s => (false, s)
  let (o, s) := readHyphens flags.spaced s.length ⟨negated, [], none⟩ s
  match o.items, s with
  | [], ']' :: rest => (o.add ⟨.single ']', 0⟩, skip flags.spaced rest)
  | _, s => (o, s)

/-- Reads the bracket `o` inside the brackets `outer`, at most `fuel` items of them. -/
def readBracketAux (flags : Flags) : Nat → List OpenSet → OpenSet → List Char →
    Except PatternError (ClassItem × List Char)
  | 0, _, _, _ => .error .classUnclosed
  | fuel + 1, outer, o, s =>
    match skip flags.spaced s with
    | [] => .error .classUnclosed
    | '[' :: rest =>
      match namedClass? ('[' :: rest) with
      | some (negated, set, behind) => do
        let set ← finishSet flags negated set
        readBracketAux flags fuel outer (o.add ⟨set, 0⟩) behind
      | none =>
        let (inner, behind) := readOpening flags rest
        readBracketAux flags fuel (o :: outer) inner behind
    | ']' :: rest => do
      let item ← o.close flags
      match outer with
      | [] => pure (item, rest)
      | around :: outer => readBracketAux flags fuel outer (around.add item) rest
    | '&' :: '&' :: rest => readBracketAux flags fuel outer (o.operate flags .inter) rest
    | '-' :: '-' :: rest => readBracketAux flags fuel outer (o.operate flags .diff) rest
    | '~' :: '~' :: rest => readBracketAux flags fuel outer (o.operate flags .symmDiff) rest
    | s => do
      let (set, behind) ← readClassRange flags s
      readBracketAux flags fuel outer (o.add ⟨set, 0⟩) behind

/-- A bracketed class, from behind its first bracket. -/
def readBracket (flags : Flags) (s : List Char) : Except PatternError (ClassItem × List Char) :=
  let (o, rest) := readOpening flags s
  readBracketAux flags (rest.length + 1) [] o rest

end TraceScan.Pattern
