import TraceScan.Text.Numeral

/-!
# Documents

The values that configuration files and reports are made of, whatever the format they are written
in, and how a value is taken as a switch, a number, a text, a list or a table.
-/

namespace TraceScan

/-- A value in a configuration file or a report. -/
inductive Document where
  | null
  | bool (b : Bool)
  | int (n : Int)
  | text (s : String)
  /-- A scalar without quotes, whose kind depends on what is asked for. -/
  | plain (s : String)
  /-- A value that no setting takes, such as a fraction or a date. -/
  | other (s : String)
  | list (items : List Document)
  | table (fields : List (String × Document))

namespace Document

/-! ## Plain scalars -/

/-- The value of a string of digits in a base, read after `value`. -/
def inBaseAux (base value : Nat) : List Char → Option Nat
  | [] => some value
  | c :: rest =>
    match Text.hexDigit? c with
    | some d => if d < base then inBaseAux base (base * value + d) rest else none
    | none => none

/-- The value of one or more digits in a base. -/
def inBase? (base : Nat) : List Char → Option Nat
  | [] => none
  | s => inBaseAux base 0 s

/-- The value of digits behind a prefix that names their base; without one they are decimal and
have no needless zero in front. -/
def unsigned? : List Char → Option Nat
  | '0' :: 'x' :: rest => inBase? 16 rest
  | '0' :: 'o' :: rest => inBase? 8 rest
  | '0' :: 'b' :: rest => inBase? 2 rest
  | ['0'] => some 0
  | '0' :: _ => none
  | s => inBase? 10 s

/-- The natural number that a plain scalar stands for; it has no minus in front, not even a
zero. -/
def plainNat? (s : String) : Option Nat :=
  match s.toList with
  | '+' :: rest => unsigned? rest
  | rest => unsigned? rest

/-- The integer that a plain scalar stands for. -/
def plainInt? (s : String) : Option Int :=
  match s.toList with
  | '-' :: rest => (unsigned? rest).map fun n => -(n : Int)
  | _ => (plainNat? s).map Int.ofNat

/-- The switch that a plain scalar stands for. -/
def plainBool? (s : String) : Option Bool :=
  if ["true", "True", "TRUE"].contains s then some true
  else if ["false", "False", "FALSE"].contains s then some false
  else none

/-- Whether a plain scalar stands for the absence of a value. -/
def isPlainNull (s : String) : Bool :=
  ["", "~", "null", "Null", "NULL"].contains s

/-! ## Views -/

/-- The value as a switch. -/
def toBool? : Document → Option Bool
  | bool b => some b
  | plain s => plainBool? s
  | _ => none

/-- The value as an integer. -/
def toInt? : Document → Option Int
  | int n => some n
  | plain s => plainInt? s
  | _ => none

/-- The value as an integer from `least` to `largest`. -/
def toIntIn? (least largest : Int) (d : Document) : Option Int :=
  d.toInt?.filter fun n => decide (least ≤ n ∧ n ≤ largest)

/-- The value as a natural number. -/
def toNat? : Document → Option Nat
  | int n => if 0 ≤ n then some n.toNat else none
  | plain s => plainNat? s
  | _ => none

/-- The value as a natural number up to `largest`. -/
def toNatUpTo? (largest : Nat) (d : Document) : Option Nat :=
  d.toNat?.filter (· ≤ largest)

/-- The value as a text; a plain scalar is one, whatever it looks like. -/
def toText? : Document → Option String
  | text s => some s
  | plain s => some s
  | _ => none

/-- The value as a list; a plain scalar without characters is an empty one. -/
def toList? : Document → Option (List Document)
  | list items => some items
  | plain s => if s.isEmpty then some [] else none
  | _ => none

/-- Whether the value stands for the absence of one. -/
def isNull : Document → Bool
  | null => true
  | plain s => isPlainNull s
  | _ => false

/-- An optional value: absent, or taken by `view?`. -/
def toOption? {α : Type} (view? : Document → Option α) (d : Document) : Option (Option α) :=
  if d.isNull then some none else (view? d).map some

/-- The fields of a table with the names `names`. A field may stand only once, and other fields
mean nothing. A plain scalar without characters is a table without fields. Where `positional`, a
list gives the first fields without their names. -/
def toFields? (positional : Bool) (names : List String) :
    Document → Option (List (String × Document))
  | table fields =>
    let known := fields.filter fun f => names.contains f.1
    if (known.map Prod.fst).Nodup then some known else none
  | list items =>
    if positional && items.length ≤ names.length then some (names.zip items) else none
  | plain s => if s.isEmpty then some [] else none
  | _ => none

/-- The field called `name`, taken by `view?`, or `default` if the table lacks it. -/
def field? {α : Type} (fields : List (String × Document)) (name : String)
    (view? : Document → Option α) (default : α) : Option α :=
  match fields.lookup name with
  | some d => view? d
  | none => some default

/-- The field called `name`, taken by `view?`; the table must have it. -/
def required? {α : Type} (fields : List (String × Document)) (name : String)
    (view? : Document → Option α) : Option α :=
  (fields.lookup name).bind view?

/-! ## Making documents -/

/-- A natural number. -/
def nat (n : Nat) : Document := int n

/-- A list of texts. -/
def texts (l : List String) : Document := list (l.map text)

/-- A value, or its absence. -/
def option {α : Type} (f : α → Document) : Option α → Document
  | some a => f a
  | none => null

/-- A table of the fields that are there. -/
def tableOf (fields : List (Option (String × Document))) : Document :=
  table (fields.filterMap id)

/-- The field `name`, if there is a value. -/
def fieldIf {α : Type} (name : String) (f : α → Document) (a : Option α) :
    Option (String × Document) :=
  a.map fun a => (name, f a)

end Document

end TraceScan
