import TraceScan.Text.Numeral

/-!
# Maps over positions

A map from numbers to values as a list of pairs in ascending order of their keys. Look-up by the
order of keys, such as the first entry behind a position, reads off that list.
-/

namespace TraceScan

/-- A map from positions to values. -/
structure PositionMap (α : Type) where
  entries : List (Nat × α) := []
  deriving DecidableEq, Repr

namespace PositionMap

variable {α : Type}

/-! ## Changes -/

/-- The entries with `value` under `key`, in place of any earlier value. -/
def insertAux (key : Nat) (value : α) : List (Nat × α) → List (Nat × α)
  | [] => [(key, value)]
  | (k, v) :: rest =>
    if key < k then (key, value) :: (k, v) :: rest
    else if key = k then (key, value) :: rest
    else (k, v) :: insertAux key value rest

/-- The map with `value` under `key`, in place of any earlier value. -/
def insert (m : PositionMap α) (key : Nat) (value : α) : PositionMap α :=
  ⟨insertAux key value m.entries⟩

/-- The map without `key`. -/
def erase (m : PositionMap α) (key : Nat) : PositionMap α :=
  ⟨m.entries.filter (·.1 != key)⟩

/-! ## Look-up -/

/-- The value under `key`. -/
def get? (m : PositionMap α) (key : Nat) : Option α :=
  m.entries.lookup key

/-- The values in the order of their keys. -/
def values (m : PositionMap α) : List α :=
  m.entries.map Prod.snd

/-- The number of entries. -/
def size (m : PositionMap α) : Nat :=
  m.entries.length

/-- The value of the least key. -/
def first? (m : PositionMap α) : Option α :=
  m.values.head?

/-- The value of the greatest key. -/
def last? (m : PositionMap α) : Option α :=
  m.values.getLast?

/-- The value of the least key beyond `key`. -/
def after? (m : PositionMap α) (key : Nat) : Option α :=
  (m.entries.find? (key < ·.1)).map Prod.snd

/-- The value of the greatest key short of `key`. -/
def before? (m : PositionMap α) (key : Nat) : Option α :=
  ((m.entries.takeWhile (·.1 < key)).getLast?).map Prod.snd

/-- The distance between two positions. -/
def distance (a b : Nat) : Nat :=
  (a - b) + (b - a)

/-- The entries from `range` before `key` to `range` behind it. Positions are words of 64 bits: the
first end does not pass zero, and the last one does not pass the largest word. -/
def around (m : PositionMap α) (key range : Nat) : List (Nat × α) :=
  m.entries.filter fun e => key - range ≤ e.1 && e.1 ≤ min (key + range) Text.largest64

/-- The closer to `key` of the closest entry so far and one behind it, the earlier one of two. -/
def closer (key : Nat) : Option (Nat × α) → Nat × α → Option (Nat × α)
  | none, e => some e
  | some best, e => if distance e.1 key < distance best.1 key then some e else some best

/-- The value of the key closest to `key`, at most `range` away; the lesser of two such keys. -/
def nearest? (m : PositionMap α) (key range : Nat) : Option α :=
  ((m.around key range).foldl (closer key) none).map Prod.snd

end PositionMap

end TraceScan
