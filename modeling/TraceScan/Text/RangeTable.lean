/-!
# Tables of code point ranges

A property of characters is kept as a list of closed ranges of code points, ascending and apart.
The tables are written in hexadecimal, such as `41-5A AA 100~12E`, where `~` stands for every second
code point, and searched by halving.
-/

namespace TraceScan.Text

/-! ## Hexadecimal digits -/

/-- The value of a hexadecimal digit of either case. -/
def hexDigit? (c : Char) : Option Nat :=
  if '0' ≤ c ∧ c ≤ '9' then some (c.toNat - '0'.toNat)
  else if 'a' ≤ c ∧ c ≤ 'f' then some (c.toNat - 'a'.toNat + 10)
  else if 'A' ≤ c ∧ c ≤ 'F' then some (c.toNat - 'A'.toNat + 10)
  else none

/-! ## Tables -/

/-- Closed ranges of code points, ascending and apart. -/
structure RangeTable where
  ranges : Array (Nat × Nat)

namespace RangeTable

/-- What was read of a range before its end: its start, and whether only every second code point
belongs to it. -/
structure RangeStart where
  first : Nat
  everySecond : Bool

/-- The ranges with those from `start` to `last` behind them. -/
def push (done : Array (Nat × Nat)) (start : Option RangeStart) (last : Option Nat) :
    Array (Nat × Nat) :=
  match start, last with
  | _, none => done
  | none, some last => done.push (last, last)
  | some start, some last =>
    if start.everySecond then
      (List.range ((last - start.first) / 2 + 1)).foldl
        (fun done i => done.push (start.first + 2 * i, start.first + 2 * i)) done
    else done.push (start.first, last)

/-- Reads ranges from left to right; `start` is what stands before the number that is being
read. -/
def ofTextAux (done : Array (Nat × Nat)) (start : Option RangeStart) (current : Option Nat) :
    List Char → Array (Nat × Nat)
  | [] => push done start current
  | c :: rest =>
    if c == ' ' || c == '\n' then ofTextAux (push done start current) none none rest
    else if c == '-' then ofTextAux done (current.map (⟨·, false⟩)) none rest
    else if c == '~' then ofTextAux done (current.map (⟨·, true⟩)) none rest
    else ofTextAux done start (some (16 * current.getD 0 + (hexDigit? c).getD 0)) rest

/-- The table written as `text`, with blanks between the ranges. -/
def ofText (text : String) : RangeTable :=
  ⟨ofTextAux #[] none none text.toList⟩

/-- Searches positions `low` to `high` (exclusive), halving at most `steps` times. -/
def containsAux (ranges : Array (Nat × Nat)) (n : Nat) : Nat → Nat → Nat → Bool
  | 0, _, _ => false
  | steps + 1, low, high =>
    if low < high then
      let middle := (low + high) / 2
      match ranges[middle]? with
      | none => false
      | some (first, last) =>
        if n < first then containsAux ranges n steps low middle
        else if last < n then containsAux ranges n steps (middle + 1) high
        else true
    else false

/-- Whether the code point `n` lies in one of the ranges. -/
def contains (table : RangeTable) (n : Nat) : Bool :=
  containsAux table.ranges n table.ranges.size 0 table.ranges.size

end RangeTable

/-- Whether a character lies in the table. -/
def RangeTable.mem (table : RangeTable) (c : Char) : Bool :=
  table.contains c.toNat

end TraceScan.Text
