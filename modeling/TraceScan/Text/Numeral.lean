import TraceScan.Text.Word

/-!
# Numerals

Line and column numbers, cursors and sizes are written with the digits `0` to `9`, with at most one
`+` in front, and have a largest value that they may not pass.
-/

namespace TraceScan.Text

/-- The largest line or column number. -/
def largest32 : Nat := UInt32.size - 1

/-- The largest position, size or cursor. -/
def largest64 : Nat := UInt64.size - 1

/-- The value of a string of digits in base ten, read after `value`. -/
def decimalAux (value : Nat) : List Char → Option Nat
  | [] => some value
  | c :: rest =>
    if isPlainDigit c then decimalAux (10 * value + (c.toNat - '0'.toNat)) rest else none

/-- The value of one or more digits. -/
def decimal? : List Char → Option Nat
  | [] => none
  | s => decimalAux 0 s

/-- The number written as `s`, with an optional `+`, when it is at most `largest`. -/
def numeral? (largest : Nat) (s : List Char) : Option Nat :=
  let digits := match s with
    | '+' :: rest => rest
    | _ => s
  (decimal? digits).filter (· ≤ largest)

/-- The text padded with blanks on the left to at least `width` characters. -/
def padLeft (width : Nat) (s : String) : String :=
  String.ofList (List.replicate (width - s.length) ' ') ++ s

/-- The text padded with blanks on the right to at least `width` characters. -/
def padRight (width : Nat) (s : String) : String :=
  s ++ String.ofList (List.replicate (width - s.length) ' ')

end TraceScan.Text
