import TraceScan.Document.Json
import TraceScan.Proofs.Text.Numerals

/-!
# Texts and numbers in JSON

The reader of JSON takes what was written in quotes for the text that it was, whatever characters
stand in it (`readValue_text`), and the digits of an integer for this integer, unless something
follows that could belong to a number (`readValue_int`). Neither is written with a line break.
-/

namespace TraceScan.Json

/-! ## Texts -/

/-- A digit that is written is read as its value. -/
theorem hexDigit?_hexDigit : ∀ n < 16, Text.hexDigit? (hexDigit n) = some n := by
  decide

/-- The code of a control character, in four digits, is read as this character. -/
theorem readUnit?_control {c : Char} (hc : c.toNat < 32) (rest : List Char) :
    readUnit? ('0' :: '0' :: hexDigit (c.toNat / 16) :: hexDigit (c.toNat % 16) :: rest) =
      some (some c, rest) := by
  have hzero : Text.hexDigit? '0' = some 0 := by decide
  have hunit :
      codeUnit? ('0' :: '0' :: hexDigit (c.toNat / 16) :: hexDigit (c.toNat % 16) :: rest) =
        some (c.toNat, rest) := by
    simp only [codeUnit?, hzero, hexDigit?_hexDigit (c.toNat / 16) (by omega),
      hexDigit?_hexDigit (c.toNat % 16) (by omega), Option.bind_eq_bind, Option.bind_some,
      Option.pure_def, Option.some.injEq, Prod.mk.injEq, and_true]
    omega
  rw [readUnit?, hunit]
  simp only [Option.bind_eq_bind, Option.bind_some]
  rw [if_neg (by omega), if_neg (by omega), Char.ofNat_toNat]
  rfl

/-- Inside quotes, the code of a control character is read as this character. -/
theorem readQuoted_control {c : Char} (hc : c.toNat < 32) (fuel : Nat) (rest : List Char) :
    readQuoted (fuel + 1) ('\\' :: 'u' :: '0' :: '0' :: hexDigit (c.toNat / 16) ::
      hexDigit (c.toNat % 16) :: rest) =
      (readQuoted fuel rest).map (Prod.map (Option.map (c :: ·)) id) := by
  rw [readQuoted, readUnit?_control hc]
  simp only [Option.bind_eq_bind, Option.bind_some]
  rcases readQuoted fuel rest with _ | ⟨_ | text, behind⟩ <;> rfl

/-- Inside quotes, a character that needs no backslash is read as itself. -/
theorem readQuoted_plain {c : Char} (hquote : c ≠ '"') (hslash : c ≠ '\\')
    (hcontrol : ¬ c.toNat < 32) (fuel : Nat) (rest : List Char) :
    readQuoted (fuel + 1) (c :: rest) =
      (readQuoted fuel rest).map (Prod.map (Option.map (c :: ·)) id) := by
  have hplain : (decide (c.toNat < 32) || c == '\\') = false := by simp [hcontrol, hslash]
  rw [readQuoted]
  · rw [hplain]
    rcases readQuoted fuel rest with _ | ⟨text, behind⟩ <;> rfl
  · exact hquote
  · exact fun _ h _ => hslash h
  · exact fun _ _ h _ => hslash h

/-- Inside quotes, a letter behind a backslash is read as the character that it stands for. -/
theorem readQuoted_letter {letter c : Char} (h : unescape? letter = some c) (fuel : Nat)
    (rest : List Char) :
    readQuoted (fuel + 1) ('\\' :: letter :: rest) =
      (readQuoted fuel rest).map (Prod.map (Option.map (c :: ·)) id) := by
  rw [readQuoted]
  · rw [h]
    rcases readQuoted fuel rest with _ | ⟨text, behind⟩ <;> rfl
  · rintro rfl
    cases h

/-- A character is written as a letter behind a backslash, as its code or as itself. -/
theorem escape_cases (c : Char) :
    (∃ letter, unescape? letter = some c ∧ escape c = ['\\', letter]) ∨
      (c.toNat < 32 ∧ escape c =
        ['\\', 'u', '0', '0', hexDigit (c.toNat / 16), hexDigit (c.toNat % 16)]) ∨
      (c ≠ '"' ∧ c ≠ '\\' ∧ ¬ c.toNat < 32 ∧ escape c = [c]) := by
  unfold escape
  split_ifs with hquote hslash hback hfeed hline hreturn htab hcontrol
  · obtain rfl : c = '"' := by simpa using hquote
    exact Or.inl ⟨'"', rfl, rfl⟩
  · obtain rfl : c = '\\' := by simpa using hslash
    exact Or.inl ⟨'\\', rfl, rfl⟩
  · obtain rfl : c = '\x08' := by simpa using hback
    exact Or.inl ⟨'b', rfl, rfl⟩
  · obtain rfl : c = '\x0c' := by simpa using hfeed
    exact Or.inl ⟨'f', rfl, rfl⟩
  · obtain rfl : c = '\n' := by simpa using hline
    exact Or.inl ⟨'n', rfl, rfl⟩
  · obtain rfl : c = '\r' := by simpa using hreturn
    exact Or.inl ⟨'r', rfl, rfl⟩
  · obtain rfl : c = '\t' := by simpa using htab
    exact Or.inl ⟨'t', rfl, rfl⟩
  · exact Or.inr (Or.inl ⟨hcontrol, rfl⟩)
  · exact Or.inr (Or.inr ⟨by simpa using hquote, by simpa using hslash, hcontrol, rfl⟩)

/-- Inside quotes, a character that is written is read as itself. -/
theorem readQuoted_escape (fuel : Nat) (c : Char) (rest : List Char) :
    readQuoted (fuel + 1) (escape c ++ rest) =
      (readQuoted fuel rest).map (Prod.map (Option.map (c :: ·)) id) := by
  rcases escape_cases c with ⟨letter, hletter, hescape⟩ | ⟨hcontrol, hescape⟩ |
    ⟨hquote, hslash, hcontrol, hescape⟩
  · rw [hescape]
    exact readQuoted_letter hletter fuel rest
  · rw [hescape]
    exact readQuoted_control hcontrol fuel rest
  · rw [hescape]
    exact readQuoted_plain hquote hslash hcontrol fuel rest

/-- A text that is written in quotes is read up to its end. -/
theorem readQuoted_quoted {s : List Char} {fuel : Nat} (h : s.length < fuel) (rest : List Char) :
    readQuoted fuel (s.flatMap escape ++ '"' :: rest) = some (some s, rest) := by
  obtain ⟨fuel, rfl⟩ := Nat.exists_eq_add_one_of_ne_zero (Nat.ne_zero_of_lt h)
  induction s generalizing fuel with
  | nil => rfl
  | cons c s ih =>
    rw [List.length_cons, Nat.add_lt_add_iff_right] at h
    obtain ⟨fuel, rfl⟩ := Nat.exists_eq_add_one_of_ne_zero (Nat.ne_zero_of_lt h)
    rw [List.flatMap_cons, List.append_assoc, readQuoted_escape, ih fuel h]
    rfl

/-- The fuel that the reader has is enough for what stands in quotes. -/
theorem length_lt_flatMap_escape (s rest : List Char) :
    s.length < (s.flatMap escape ++ '"' :: rest).length + 1 := by
  have hpos : ∀ c, 0 < (escape c).length := by
    intro c
    rcases escape_cases c with ⟨letter, -, hescape⟩ | ⟨-, hescape⟩ | ⟨-, -, -, hescape⟩ <;>
      simp [hescape]
  have hle : s.length ≤ (s.flatMap escape).length := by
    induction s with
    | nil => exact Nat.zero_le _
    | cons c s ih =>
      have := hpos c
      rw [List.flatMap_cons, List.length_append, List.length_cons]
      omega
  rw [List.length_append]
  omega

/-- A text that is written in quotes is read as itself. -/
theorem readQuoted_quote (s : String) (rest : List Char) :
    readQuoted ((s.toList.flatMap escape ++ '"' :: rest).length + 1)
      (s.toList.flatMap escape ++ '"' :: rest) = some (some s.toList, rest) :=
  readQuoted_quoted (length_lt_flatMap_escape _ _) rest

/-- What stands in quotes, with more behind it. -/
theorem quote_append (s : String) (rest : List Char) :
    quote s ++ rest = '"' :: (s.toList.flatMap escape ++ '"' :: rest) := by
  rw [quote, List.cons_append, List.append_assoc]
  rfl

/-- A character is written without a line break. -/
theorem newline_not_mem_escape (c : Char) : '\n' ∉ escape c := by
  rcases escape_cases c with ⟨letter, hletter, hescape⟩ | ⟨hcontrol, hescape⟩ |
    ⟨-, -, hcontrol, hescape⟩
  · have hline : letter ≠ '\n' := by
      rintro rfl
      cases hletter
    simp [hescape, hline.symm]
  · have hdigit : ∀ n < 16, hexDigit n ≠ '\n' := by decide
    have hhigh := hdigit (c.toNat / 16) (by omega)
    have hlow := hdigit (c.toNat % 16) (by omega)
    simp [hescape, hhigh.symm, hlow.symm]
  · have hline : c ≠ '\n' := by
      rintro rfl
      exact hcontrol (by decide)
    simp [hescape, hline.symm]

/-- What stands in quotes is in one line. -/
theorem newline_not_mem_quote (s : String) : '\n' ∉ quote s := by
  simp only [quote, List.mem_cons, List.mem_append, List.mem_flatMap, List.not_mem_nil, or_false]
  rintro (h | ⟨c, -, h⟩ | h)
  · exact absurd h (by decide)
  · exact newline_not_mem_escape c h
  · exact absurd h (by decide)

/-! ## Numbers -/

/-- Whether a character can belong to no number that starts before it. -/
structure Stops (c : Char) : Prop where
  digit : Text.isPlainDigit c = false
  point : c ≠ '.'
  lower : c ≠ 'e'
  upper : c ≠ 'E'

/-- Whether a text goes on behind a number with nothing that could belong to it. -/
def Ends (rest : List Char) : Prop :=
  ∀ c ∈ rest.head?, Stops c

/-- A number may stand at the end of a text. -/
theorem ends_nil : Ends [] := by
  rintro c ⟨⟩

/-- The digits of a number are taken as far as they go. -/
theorem digits?_append {s rest : List Char} (hs : Text.IsDigits s) (hrest : Ends rest) :
    digits? (s ++ rest) = some (s, rest) := by
  have htake : (s ++ rest).takeWhile Text.isPlainDigit = s := by
    rw [List.takeWhile_append_of_pos hs.2]
    cases rest with
    | nil => simp
    | cons c rest => simp [(hrest c rfl).digit]
  have hdrop : (s ++ rest).dropWhile Text.isPlainDigit = rest := by
    rw [List.dropWhile_append_of_pos hs.2]
    cases rest with
    | nil => rfl
    | cons c rest => simp [(hrest c rfl).digit]
  obtain ⟨c, s', rfl⟩ := List.exists_cons_of_ne_nil hs.1
  rw [digits?, htake, hdrop]

/-- Behind a number there is no fraction. -/
theorem readFraction?_of_ends {rest : List Char} (h : Ends rest) :
    readFraction? rest = some ([], rest) := by
  cases rest with
  | nil => rfl
  | cons c rest =>
    rw [readFraction?]
    rintro rest' ⟨⟩
    exact (h '.' rfl).point rfl

/-- Behind a number there is no exponent. -/
theorem readExponent?_of_ends {rest : List Char} (h : Ends rest) :
    readExponent? rest = some ([], rest) := by
  cases rest with
  | nil => rfl
  | cons c rest =>
    have hstops : Stops c := h c rfl
    simp [readExponent?, hstops.lower, hstops.upper]

/-- A number that is written is read, with a sign for which it is not zero. -/
theorem readNumber?_toString (negative : Bool) {n : Nat} (hn : negative = true → n ≠ 0)
    {rest : List Char} (hrest : Ends rest) :
    readNumber? negative ((toString n).toList ++ rest) =
      some (.int (if negative then -(n : Int) else n), rest) := by
  have hnumeral := Text.isNumeral_toString n
  -- no needless zero stands in front
  have hwhole : ((toString n).toList.head? == some '0' && decide (1 < (toString n).toList.length)) =
      false := by
    by_cases hzero : n = 0
    · subst hzero
      decide
    · have hhead : (toString n).toList.head? ≠ some '0' :=
        fun h => hzero (Text.eq_zero_of_head?_toString h)
      rw [beq_eq_false_iff_ne.mpr hhead, Bool.false_and]
  have hsign : (negative && n == 0) = false := by
    cases negative with
    | false => rfl
    | true => simpa using hn rfl
  rw [readNumber?, digits?_append hnumeral.digits hrest]
  simp only [Option.bind_eq_bind, Option.bind_some]
  rw [hwhole, readFraction?_of_ends hrest]
  simp only [Option.bind_some, Bool.false_eq_true, if_false, Option.pure_def]
  rw [readExponent?_of_ends hrest, Text.decimal?_eq_some hnumeral]
  simp [hsign]

/-- A text in quotes is read. -/
theorem readValue_text (fuel : Nat) (s : String) (rest : List Char) :
    readValue (fuel + 1) (quote s ++ rest) = some (.text s, rest) := by
  rw [quote_append]
  show (readQuoted ((s.toList.flatMap escape ++ '"' :: rest).length + 1)
    (s.toList.flatMap escape ++ '"' :: rest)).map _ = _
  rw [readQuoted_quote]
  simp only [Option.map_some, String.ofList_toList]

/-- A text that starts with a digit is read as a number. -/
theorem readValue_digit {c : Char} (hc : Text.isPlainDigit c = true) (fuel : Nat) (s : List Char) :
    readValue (fuel + 1) (c :: s) = readNumber? false (c :: s) := by
  have hmem := Text.mem_plainDigits hc
  simp only [Text.plainDigits, List.mem_cons, List.not_mem_nil, or_false] at hmem
  rcases hmem with rfl | rfl | rfl | rfl | rfl | rfl | rfl | rfl | rfl | rfl <;> rfl

/-- An integer that is written is read. -/
theorem readValue_int (fuel : Nat) (n : Int) {rest : List Char} (hrest : Ends rest) :
    readValue (fuel + 1) ((toString n).toList ++ rest) = some (.int n, rest) := by
  cases n with
  | ofNat n =>
    obtain ⟨c, s, hs⟩ := List.exists_cons_of_ne_nil (Text.isNumeral_toString n).digits.1
    have hc : Text.isPlainDigit c = true :=
      (Text.isNumeral_toString n).digits.2 c (hs ▸ List.mem_cons_self)
    have hnumber := readNumber?_toString false (n := n) (by simp) hrest
    show readValue (fuel + 1) ((toString n).toList ++ rest) = _
    rw [hs, List.cons_append, readValue_digit hc, ← List.cons_append, ← hs, hnumber]
    rfl
  | negSucc n =>
    have hnumber := readNumber?_toString true (n := n + 1) (by simp) hrest
    have htext : (toString (Int.negSucc n)).toList = '-' :: (toString (n + 1)).toList := by
      rw [show toString (Int.negSucc n) = "-" ++ toString (n + 1) from rfl, String.toList_append]
      rfl
    rw [htext]
    show readNumber? true ((toString (n + 1)).toList ++ rest) = _
    rw [hnumber]
    rfl

/-- An integer is not written with nothing. -/
theorem toString_int_ne_nil (n : Int) : (toString n).toList ≠ [] := by
  cases n with
  | ofNat n => exact (Text.isNumeral_toString n).digits.1
  | negSucc n =>
    rw [show toString (Int.negSucc n) = "-" ++ toString (n + 1) from rfl, String.toList_append]
    simp

/-- An integer is in one line. -/
theorem newline_not_mem_toString (n : Int) : '\n' ∉ (toString n).toList := by
  have hdigits : ∀ m : Nat, '\n' ∉ (toString m).toList := fun m h =>
    absurd ((Text.isNumeral_toString m).digits.2 _ h) (by decide)
  cases n with
  | ofNat n => exact hdigits n
  | negSucc n =>
    rw [show toString (Int.negSucc n) = "-" ++ toString (n + 1) from rfl, String.toList_append]
    intro h
    rcases List.mem_append.mp h with h | h
    · exact absurd h (by decide)
    · exact hdigits _ h

end TraceScan.Json
