import TraceScan.Text.Category
import TraceScan.Text.Property

/-!
# Printable characters

A character is printable when it shows as something of its own: it is assigned to a category other
than the controls, formats, separators and private characters, and does not extend the character
before it. `quoted` writes a text in quotes, with everything that is not printable escaped.
-/

namespace TraceScan.Text

/-! ## Printable characters -/

/-- The categories whose characters do not show, the blank apart. -/
def hiddenCategories : List RangeTable :=
  [Category.control, Category.format, Category.privateUse, Category.unassigned,
    Category.spaceSeparator, Category.lineSeparator, Category.paragraphSeparator]

/-- Whether a character shows as something of its own. -/
def isPrintable (c : Char) : Bool :=
  if c.toNat < 127 then ' ' ≤ c
  else !(Property.graphemeExtend.mem c || hiddenCategories.any (·.mem c))

/-! ## Quoted text -/

/-- A character inside quotes. -/
def escaped (c : Char) : List Char :=
  if c == '"' then ['\\', '"']
  else if c == '\\' then ['\\', '\\']
  else if c == '\n' then ['\\', 'n']
  else if c == '\r' then ['\\', 'r']
  else if c == '\t' then ['\\', 't']
  else if c == '\x00' then ['\\', '0']
  else if isPrintable c then [c]
  else '\\' :: 'u' :: '\x7b' :: (Nat.toDigits 16 c.toNat ++ ['\x7d'])

/-- A text in quotes. -/
def quoted (s : String) : String :=
  String.ofList ('"' :: (s.toList.flatMap escaped ++ ['"']))

end TraceScan.Text
