import TraceScan.Document.Yaml.Scalar

/-!
# Writing YAML

Documents in block style. Tables are indented by two blanks, lists under a field are not indented,
and empty ones are written in brackets.
-/

namespace TraceScan.Yaml

/-- A value that is written in one line, if it is one. -/
def inline? : Document → Option (List Char)
  | .null => some "null".toList
  | .bool true => some "true".toList
  | .bool false => some "false".toList
  | .int n => some (toString n).toList
  | .text s => some (quote s)
  | .plain s => some s.toList
  | .other s => some s.toList
  | .list [] => some ['[', ']']
  | .table [] => some ['\x7b', '\x7d']
  | _ => none

/-- The indentation of a line. -/
def blanks (indent : Nat) : List Char :=
  List.replicate indent ' '

mutual

/-- What follows the name of a field in a table with the given indentation. -/
def fieldValue (indent : Nat) : Document → List Char
  | .list (d :: rest) => '\n' :: (blanks indent ++ item indent d ++ items indent rest)
  | .table (f :: rest) =>
    '\n' :: (blanks (indent + 2) ++ quote f.1 ++ ':' :: fieldValue (indent + 2) f.2
      ++ fields (indent + 2) rest)
  | d => ' ' :: ((inline? d).getD [] ++ ['\n'])

/-- An item of a list with the given indentation. -/
def item (indent : Nat) : Document → List Char
  | .list (d :: rest) => '-' :: ' ' :: (item (indent + 2) d ++ items (indent + 2) rest)
  | .table (f :: rest) =>
    '-' :: ' ' :: (quote f.1 ++ ':' :: fieldValue (indent + 2) f.2 ++ fields (indent + 2) rest)
  | d => '-' :: ' ' :: ((inline? d).getD [] ++ ['\n'])

/-- The lines of further items. -/
def items (indent : Nat) : List Document → List Char
  | [] => []
  | d :: rest => blanks indent ++ item indent d ++ items indent rest

/-- The lines of further fields. -/
def fields (indent : Nat) : List (String × Document) → List Char
  | [] => []
  | f :: rest =>
    blanks indent ++ quote f.1 ++ ':' :: fieldValue indent f.2 ++ fields indent rest

end

/-- The document as YAML. -/
def render : Document → String
  | .list (d :: rest) => String.ofList (item 0 d ++ items 0 rest)
  | .table (f :: rest) => String.ofList (fields 0 (f :: rest))
  | d => String.ofList ((inline? d).getD [] ++ ['\n'])

end TraceScan.Yaml
