/-!
# Rolling views

The most recent lines of a stream, up to a capacity. Lines that fall out never renumber the others:
`first` is the position of the oldest line that is kept.
-/

namespace TraceScan

/-- The most recent lines of a stream. -/
structure RollingView where
  /-- The lines that are kept, oldest first. -/
  lines : List String := []
  /-- How many lines may be kept. -/
  capacity : Nat
  /-- The position of the oldest line that is kept. -/
  first : Nat := 1
  deriving DecidableEq, Repr

namespace RollingView

/-- The number of lines that are kept. -/
def size (v : RollingView) : Nat :=
  v.lines.length

/-- The view without its oldest `n` lines. -/
def drop (v : RollingView) (n : Nat) : RollingView :=
  { v with lines := v.lines.drop n, first := v.first + n }

/-- The view with one more line; the oldest one falls out when the view is full. -/
def push (v : RollingView) (line : String) : RollingView :=
  if v.capacity = 0 then { v with first := v.first + 1 }
  else
    let v := if v.size = v.capacity then v.drop 1 else v
    { v with lines := v.lines ++ [line] }

/-- The view with some more lines. -/
def extend (v : RollingView) (lines : List String) : RollingView :=
  lines.foldl push v

/-- The view with another capacity; the oldest lines that no longer fit fall out. -/
def resize (v : RollingView) (capacity : Nat) : RollingView :=
  { v.drop (v.size - capacity) with capacity := capacity }

/-- The line at a position, if it is kept. -/
def get? (v : RollingView) (position : Nat) : Option String :=
  if v.first ≤ position then v.lines[position - v.first]? else none

/-- The last `n` lines that are kept, oldest first. -/
def tail (v : RollingView) (n : Nat) : List String :=
  v.lines.drop (v.size - n)

end RollingView

end TraceScan
