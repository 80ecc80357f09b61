import TraceScan.Pattern.CharSet

/-!
# Patterns

The syntax of regular expressions with numbered groups, and the search for the first match.

`Pattern.run p k s` reads `p` from state `s` and hands each way of doing so, best first, to the rest
of the search `k`; the first way that `k` accepts is the answer. Alternatives are tried from left
to right, greedy repetition prefers one more round and lazy repetition one round less.

This is the documented leftmost-first order, and branches are tried as they are written. An engine
may read branches that start alike as one start with a choice behind it. Where that start can be
read in several ways, `a+b|a+c` say, its ways then come before the branches, so that another match
may be preferred. No such factoring of common starts is modelled.
-/

namespace TraceScan

/-! ## Assertions -/

/-- What an assertion about word boundaries asks for. -/
inductive WordEdge where
  | boundary
  | inside
  | start
  | stop
  | startHalf
  | stopHalf
  deriving DecidableEq, Repr

/-- A condition on a place in the text. -/
inductive Assertion where
  | textStart
  | textEnd
  | lineStart
  | lineEnd
  /-- A line start where `\r\n`, `\r` and `\n` all end lines. -/
  | lineStartAny
  /-- A line end where `\r\n`, `\r` and `\n` all end lines. -/
  | lineEndAny
  /-- A word boundary, between plain word characters only when `plain`. -/
  | wordEdge (edge : WordEdge) (plain : Bool)
  deriving DecidableEq, Repr

namespace Assertion

/-- Whether a word edge of the given kind lies between two characters, each a word character or
not. -/
def edgeHolds : WordEdge → Bool → Bool → Bool
  | .boundary, left, right => left != right
  | .inside, left, right => left == right
  | .start, left, right => !left && right
  | .stop, left, right => left && !right
  | .startHalf, left, _ => !left
  | .stopHalf, _, right => !right

/-- Whether the assertion holds between `before`, read backwards, and `rest`. -/
def holds (a : Assertion) (before rest : List Char) : Bool :=
  match a with
  | textStart => before.isEmpty
  | textEnd => rest.isEmpty
  | lineStart => before.head?.all (· == '\n')
  | lineEnd => rest.head?.all (· == '\n')
  | lineStartAny =>
    before.head?.all fun c => c == '\n' || (c == '\r' && rest.head? != some '\n')
  | lineEndAny =>
    rest.head?.all fun c => c == '\r' || (c == '\n' && before.head? != some '\r')
  | wordEdge edge plain =>
    let isWord := if plain then Text.isPlainWord else Text.isWord
    edgeHolds edge (before.head?.any isWord) (rest.head?.any isWord)

end Assertion

/-! ## Syntax -/

/-- A regular expression. -/
inductive Pattern where
  /-- The empty text. -/
  | empty
  /-- One character of a set. -/
  | one (set : CharSet)
  /-- Any number of characters of a set. -/
  | span (set : CharSet) (greedy : Bool)
  /-- Nothing, at a place where an assertion holds. -/
  | look (assertion : Assertion)
  | seq (p q : Pattern)
  /-- Either of two patterns, the left one preferred. -/
  | alt (p q : Pattern)
  /-- A pattern whose text is kept under a number. -/
  | group (index : Nat) (p : Pattern)
  /-- One or more rounds of a pattern. -/
  | many (p : Pattern) (greedy : Bool)
  /-- Exactly `n` rounds of a pattern. -/
  | copies (n : Nat) (p : Pattern)
  /-- At most `n` rounds of a pattern. -/
  | upTo (n : Nat) (p : Pattern) (greedy : Bool)

/-! ## States of a search -/

/-- The part of a text between two places, given by what follows each of them. -/
structure Extent where
  start : List Char
  stop : List Char

/-- The text of an extent. -/
def Extent.text (e : Extent) : List Char :=
  e.start.take (e.start.length - e.stop.length)

/-- A place in a text, with the groups read on the way, latest first. -/
structure Place where
  /-- What lies before the place, read backwards. -/
  before : List Char
  rest : List Char
  groups : List (Nat × Extent)

/-- The text that the group `index` took last. -/
def Place.group? (s : Place) (index : Nat) : Option (List Char) :=
  (s.groups.lookup index).map Extent.text

/-! ## Reading a pattern -/

namespace Pattern

variable {α : Type}

/-- The first way that is accepted, one more round first if the repetition is greedy. -/
def choose (greedy : Bool) (more less : Unit → Option α) : Option α :=
  if greedy then
    match more () with
    | some a => some a
    | none => less ()
  else
    match less () with
    | some a => some a
    | none => more ()

/-- Takes characters of `set` as long as it can, then gives them back one by one. -/
def spanGreedy (set : CharSet) (k : List Char → List Char → Option α) (before : List Char) :
    List Char → Option α
  | [] => k before []
  | c :: rest =>
    if set.mem c then
      match spanGreedy set k (c :: before) rest with
      | some a => some a
      | none => k before (c :: rest)
    else k before (c :: rest)

/-- Takes as few characters of `set` as possible, and one more each time that is not enough. -/
def spanLazy (set : CharSet) (k : List Char → List Char → Option α) (before : List Char) :
    List Char → Option α
  | [] => k before []
  | c :: rest =>
    match k before (c :: rest) with
    | some a => some a
    | none => if set.mem c then spanLazy set k (c :: before) rest else none

/-- Further rounds of `step`, each of which has to take a character; at most `rounds` of them. -/
def againAux (step : (Place → Option α) → Place → Option α) (greedy : Bool)
    (k : Place → Option α) : Nat → Place → Option α
  | 0, s => k s
  | rounds + 1, s =>
    choose greedy
      (fun _ => step (fun t =>
        if t.rest.length < s.rest.length then againAux step greedy k rounds t else none) s)
      (fun _ => k s)

/-- One round of `step` and then as many more as the text allows. A first round that takes nothing
ends the repetition. -/
def manyAux (step : (Place → Option α) → Place → Option α) (greedy : Bool)
    (k : Place → Option α) (s : Place) : Option α :=
  step (fun t =>
    if t.rest.length < s.rest.length then againAux step greedy k t.rest.length t else k t) s

/-- `n` rounds of `step`. -/
def copiesAux (step : (Place → Option α) → Place → Option α) (k : Place → Option α) :
    Nat → Place → Option α
  | 0, s => k s
  | n + 1, s => step (copiesAux step k n) s

/-- At most `n` rounds of `step`. -/
def upToAux (step : (Place → Option α) → Place → Option α) (greedy : Bool)
    (k : Place → Option α) : Nat → Place → Option α
  | 0, s => k s
  | n + 1, s => choose greedy (fun _ => step (upToAux step greedy k n) s) (fun _ => k s)

/-- Reads a pattern from `s` and continues with `k`; the first way that `k` accepts. -/
def run : Pattern → (Place → Option α) → Place → Option α
  | empty, k, s => k s
  | one set, k, s =>
    match s.rest with
    | [] => none
    | c :: rest => if set.mem c then k ⟨c :: s.before, rest, s.groups⟩ else none
  | span set true, k, s => spanGreedy set (fun b r => k ⟨b, r, s.groups⟩) s.before s.rest
  | span set false, k, s => spanLazy set (fun b r => k ⟨b, r, s.groups⟩) s.before s.rest
  | look a, k, s => if a.holds s.before s.rest then k s else none
  | seq p q, k, s => run p (run q k) s
  | alt p q, k, s =>
    match run p k s with
    | some a => some a
    | none => run q k s
  | group i p, k, s => run p (fun t => k { t with groups := (i, ⟨s.rest, t.rest⟩) :: t.groups }) s
  | many p greedy, k, s => manyAux (run p) greedy k s
  | copies n p, k, s => copiesAux (run p) k n s
  | upTo n p greedy, k, s => upToAux (run p) greedy k n s

/-! ## Searching a text -/

/-- The first match at this place or a later one. -/
def searchFrom (p : Pattern) (before : List Char) : List Char → Option Place
  | [] => run p some ⟨before, [], []⟩
  | c :: rest =>
    match run p some ⟨before, c :: rest, []⟩ with
    | some s => some s
    | none => searchFrom p (c :: before) rest

/-- The end of the first match in a text, with its groups. -/
def search (p : Pattern) (text : List Char) : Option Place :=
  searchFrom p [] text

/-- Whether a text holds a match. -/
def occursIn (p : Pattern) (text : List Char) : Bool :=
  (search p text).isSome

/-! ## Groups and sizes -/

/-- The highest group number in a pattern, 0 if it has no group. -/
def lastGroup : Pattern → Nat
  | empty | one _ | span _ _ | look _ => 0
  | seq p q | alt p q => max p.lastGroup q.lastGroup
  | group i p => max i p.lastGroup
  | many p _ | copies _ p | upTo _ p _ => p.lastGroup

/-- Whether the pattern can take no character at all. -/
def takesNothing : Pattern → Bool
  | empty | look _ => true
  | one _ | span _ _ => false
  | seq p q | alt p q => p.takesNothing && q.takesNothing
  | group _ p | many p _ | copies _ p | upTo _ p _ => p.takesNothing

end Pattern

end TraceScan
