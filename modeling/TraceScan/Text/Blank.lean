/-!
# Blank characters and trimming

A character is blank when it has the `White_Space` property, twenty-five characters in all. `trim`
takes blanks off both ends of a text.
-/

namespace TraceScan.Text

/-! ## Blank characters -/

/-- The characters with the `White_Space` property. -/
def isBlank (c : Char) : Bool :=
  c == ' ' || ('\t' ≤ c && c ≤ '\r') ||
    (128 ≤ c.toNat &&
      (c == '\u0085' || c == '\u00a0' || c == '\u1680' || ('\u2000' ≤ c && c ≤ '\u200a') ||
        c == '\u2028' || c == '\u2029' || c == '\u202f' || c == '\u205f' || c == '\u3000'))

/-! ## Trimming -/

/-- The text without the blanks in front of it. -/
def trimStart (s : List Char) : List Char :=
  s.dropWhile isBlank

/-- The text without the blanks behind it. -/
def trimEnd (s : List Char) : List Char :=
  (s.reverse.dropWhile isBlank).reverse

/-- The text without the blanks at either end. -/
def trim (s : List Char) : List Char :=
  trimEnd (trimStart s)

/-- The string without the blanks at either end. -/
def trimmed (s : String) : String :=
  String.ofList (trim s.toList)

end TraceScan.Text
