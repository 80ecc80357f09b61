/-!
# Visible text

Terminal output carries control sequences: an escape character, `[`, parameter characters,
intermediate characters and one final character. `strip` deletes them, again and again where a
deletion joins the halves of another one, together with the carriage returns at the end.
-/

namespace TraceScan

/-! ## Control sequences -/

/-- The escape character. -/
def escapeChar : Char := '\x1b'

/-- The parameter characters of a control sequence, `0` to `?`. -/
def isParameter (c : Char) : Bool := '0' ≤ c && c ≤ '?'

/-- The intermediate characters of a control sequence, a blank to `/`. -/
def isIntermediate (c : Char) : Bool := ' ' ≤ c && c ≤ '/'

/-- The characters that end a control sequence, `@` to `~`. -/
def isFinal (c : Char) : Bool := '@' ≤ c && c ≤ '~'

/-- The text behind the control sequence at the start of `s`, if there is one. -/
def afterSequence? : List Char → Option (List Char)
  | a :: b :: s =>
    if a = escapeChar ∧ b = '[' then
      match (s.dropWhile isParameter).dropWhile isIntermediate with
      | c :: rest => if isFinal c then some rest else none
      | [] => none
    else none
  | _ => none

/-- What follows a control sequence is shorter than the text that starts with it. -/
theorem length_afterSequence? {s rest : List Char} (h : afterSequence? s = some rest) :
    rest.length < s.length := by
  unfold afterSequence? at h
  split at h
  · rename_i a b t
    split at h
    · have h₁ : (t.dropWhile isParameter).length ≤ t.length :=
        (List.dropWhile_sublist _).length_le
      have h₂ : ((t.dropWhile isParameter).dropWhile isIntermediate).length
          ≤ (t.dropWhile isParameter).length := (List.dropWhile_sublist _).length_le
      split at h
      · rename_i c r hr
        split at h
        · cases h
          simp only [hr, List.length_cons] at h₂ ⊢
          omega
        · cases h
      · cases h
    · cases h
  · cases h

/-- Whether a text holds a control sequence. -/
def hasSequence : List Char → Bool
  | [] => false
  | c :: rest => (afterSequence? (c :: rest)).isSome || hasSequence rest

/-- The text without its control sequences, found from left to right. -/
def dropSequences (s : List Char) : List Char :=
  match s with
  | [] => []
  | c :: rest =>
    match _h : afterSequence? (c :: rest) with
    | some behind => dropSequences behind
    | none => c :: dropSequences rest
termination_by s.length
decreasing_by
  · exact length_afterSequence? _h
  · simp

/-- The text after deleting control sequences until none is left. -/
def settle (s : List Char) : List Char :=
  if (dropSequences s).length < s.length then settle (dropSequences s) else s
termination_by s.length

/-! ## Lines -/

/-- The text without the carriage returns at its end. -/
def trimReturns (s : List Char) : List Char :=
  (s.reverse.dropWhile (· == '\r')).reverse

/-- The visible characters of a line. -/
def visible (s : List Char) : List Char :=
  trimReturns (settle (trimReturns s))

/-- The visible text of a line. -/
def strip (line : String) : String :=
  String.ofList (visible line.toList)

/-- Whether a line holds a control sequence. -/
def containsSequence (line : String) : Bool :=
  hasSequence line.toList

end TraceScan
