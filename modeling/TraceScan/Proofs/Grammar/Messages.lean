import Mathlib.Data.Bool.AllAny
import TraceScan.Proofs.Grammar.Captures
import TraceScan.Proofs.Grammar.Ownership
import TraceScan.Proofs.Pattern.Messages

/-!
# Messages with their places

A Perl message ends in the place that it comes from: `Died at /x/script.pl line 3.` The Perl grammar
finds this place behind messages that look like calls, and behind messages in which `at ` does not
stand. In all other messages it takes the first `at ` for that of the place. The path then starts
with text of the message, unless the message holds a whole place.
-/

namespace TraceScan

/-! ## Messages -/

/-- A message with the place that it comes from. -/
def perlMessage (message path line : String) : String :=
  message ++ " at " ++ path ++ " line " ++ line ++ "."

/-- Whether some texts and a number make a message with its place. -/
structure IsPerlMessage (message path line : String) (n : Nat) : Prop where
  message : '\n' ∉ message.toList
  ending : IsPerlPath path.toList
  path : ∀ c ∈ path.toList, Text.isBlank c = false
  line : Text.IsNumeral line.toList n
  small : n < UInt32.size

/-- Whether a message is the call of a function. -/
def IsCall (message : String) : Prop :=
  ∃ blanks name args : String, message = blanks ++ name ++ "(" ++ args ++ ") called" ∧
    (∀ c ∈ blanks.toList, Text.isBlank c = true) ∧ name ≠ "" ∧
      ∀ c ∈ name.toList, Text.isWord c = true ∨ c = ':'

/-- Whether `at ` stands in a message with a blank behind it, be it in a word. -/
def HoldsAt (message : String) : Prop :=
  "at ".toList <:+: (message ++ " ").toList

instance (message : String) : Decidable (HoldsAt message) :=
  inferInstanceAs (Decidable ("at ".toList <:+: (message ++ " ").toList))

/-- What is captured in a message in which `at ` stands: the first place, be it behind a call. -/
inductive Leaks (message path : String) (n : Nat) : Option Capture → Prop where
  /-- The path starts in the message and ends in the path of the place. -/
  | path {front between : String} {context : Option String}
      (h : message ++ " " = front ++ "at " ++ between) (hlead : IsLead front.toList)
      (hne : Text.trimmed (between ++ "at " ++ path) ≠ path) :
      Leaks message path n (some ⟨Text.trimmed (between ++ "at " ++ path), n, none, context⟩)
  /-- The message holds a whole place, which is captured if its line number can be read. -/
  | place {front found rest : String} {context : Option String}
      (h : message = front ++ "at " ++ found ++ " line " ++ rest) (hlead : IsLead front.toList)
      (hfound : IsPerlPath found.toList) :
      Leaks message path n
        ((Text.numeral? Text.largest32 (rest.toList.takeWhile Text.isDigit)).map fun k =>
          ⟨Text.trimmed found, k, none, context⟩)

variable {message path line : String} {n : Nat}

/-- The characters of a message with its place. -/
theorem toList_perlMessage (message path line : String) :
    (perlMessage message path line).toList =
      message.toList ++ ' ' :: placeText path.toList (line.toList ++ ['.']) := by
  simp [perlMessage, placeText]

/-- The place of a message. -/
theorem IsPerlMessage.isPlace (h : IsPerlMessage message path line n) :
    IsPlace path.toList line.toList where
  blank hmem := absurd (h.path ' ' hmem) (by decide)
  lineBreak hmem := absurd (h.path '\n' hmem) (by decide)
  ending := h.ending
  digits := h.line.digits

/-- The line number of a message can be read. -/
theorem IsPerlMessage.numeral?_line (h : IsPerlMessage message path line n) :
    Text.numeral? Text.largest32 line.toList = some n :=
  Text.numeral?_eq_some h.line (Nat.le_sub_one_of_lt h.small)

/-- A message is a call if and only if it reads so with the blank behind it. -/
theorem isCallFront_iff : IsCallFront (message.toList ++ [' ']) ↔ IsCall message := by
  constructor
  · rintro ⟨blanks, name, args, hfront, hblanks, hne, hname⟩
    refine ⟨String.ofList blanks, String.ofList name, String.ofList args, ?_,
      by simpa using hblanks, by simpa using hne, by simpa using hname⟩
    have hcut : message.toList ++ [' '] = (blanks ++ (name ++ '(' :: (args ++
        [')', ' ', 'c', 'a', 'l', 'l', 'e', 'd']))) ++ [' '] := by
      simpa using hfront
    rw [← String.toList_inj, List.append_cancel_right hcut]
    simp
  · rintro ⟨blanks, name, args, rfl, hblanks, hne, hname⟩
    exact ⟨blanks.toList, name.toList, args.toList, by simp, hblanks, by simpa using hne, hname⟩

/-- The words that may stand in a message, by its characters. -/
theorem holdsAt_iff : ['a', 't', ' '] <:+: message.toList ++ [' '] ↔ HoldsAt message := by
  simp [HoldsAt]

/-! ## Paths -/

/-- Something is left of the name of a Perl file. -/
theorem IsPerlPath.trim_ne_nil {path : List Char} (h : IsPerlPath path) : Text.trim path ≠ [] := by
  obtain ⟨stem, ending, -, -, rfl⟩ := h
  exact Text.trim_ne_nil ⟨'.', by simp, by decide⟩

/-- A path with text of a message before it is another one than the path. -/
theorem trim_append_ne {path : List Char} (h : IsPerlPath path)
    (hpath : ∀ c ∈ path, Text.isBlank c = false) (between : List Char) :
    Text.trim (between ++ (['a', 't', ' '] ++ path)) ≠ path := by
  have hne : path ≠ [] := by
    rintro rfl
    exact h.trim_ne_nil rfl
  have hlast : (between ++ (['a', 't', ' '] ++ path)).getLast? = path.getLast? := by
    rw [← List.append_assoc, List.getLast?_append_of_ne_nil _ hne]
  -- the blank before the path is not at the start, so it is kept
  have hblank : ' ' ∈ Text.trim (between ++ (['a', 't', ' '] ++ path)) := by
    rw [Text.trim_eq_trimStart fun c hc => hpath c (List.mem_of_getLast? (hlast ▸ hc)),
      Text.trimStart, List.dropWhile_append]
    have hword : (['a', 't', ' '] ++ path).dropWhile Text.isBlank = ['a', 't', ' '] ++ path :=
      List.dropWhile_cons_of_neg (by decide)
    rw [hword]
    split <;> simp
  intro heq
  rw [heq] at hblank
  exact absurd (hpath ' ' hblank) (by decide)

/-! ## Captures -/

/-- The rule for messages. -/
def perlRule : CompiledRule :=
  ⟨Pattern.perlPattern, 2, 3, none, some 1⟩

/-- The characters of the pattern of the Perl grammar. -/
def spelledPerl :
    { spelling // Spells (Builtin.perl.rules.map Rule.pattern) spelling } := by
  apply Subtype.mk
  repeat' first
    | exact List.Forall₂.nil
    | apply List.Forall₂.cons
    | exact rfl

/-- The rule for messages is the only one of the Perl grammar. -/
theorem compile_perl : Grammar.compile Builtin.perl = .ok ⟨Builtin.perl, [perlRule]⟩ :=
  Grammar.compile_eq_ok (by decide) (by decide) (by decide) spelledPerl.2 rfl

/-- The grammar of one rule captures what the rule does. -/
theorem Grammar.captures_singleton (d : Definition) (rule : CompiledRule) (line : String) :
    (⟨d, [rule]⟩ : Grammar).captures line = rule.capture line.toList := by
  rw [captures, List.findSome?_singleton]

/-- The context that groups hold. -/
def contextOf (groups : List (Nat × Extent)) : Option String :=
  ((((groups.lookup 1).map Extent.text).map Text.trim).filter (!·.isEmpty)).map String.ofList

/-- What is noted of a place is captured if the line number can be read. -/
theorem capture_of_notes {text found digits : List Char} {groups : List (Nat × Extent)}
    {t : Place} (hsearch : Pattern.perlPattern.search text = some t) (hfound : IsPerlPath found)
    (hnotes : Pattern.Notes t groups found digits) :
    perlRule.capture text = (Text.numeral? Text.largest32 digits).map fun n =>
      ⟨String.ofList (Text.trim found), n, none, contextOf groups⟩ := by
  obtain ⟨hpath, hdigits, hcontext⟩ := hnotes.group?
  exact CompiledRule.capture_eq_map hsearch hpath hfound.trim_ne_nil hdigits rfl hcontext

/-- What is noted of the place of a message is captured. -/
theorem IsPerlMessage.capture_eq_some (h : IsPerlMessage message path line n) {text : List Char}
    {groups : List (Nat × Extent)} {t : Place}
    (hsearch : Pattern.perlPattern.search text = some t)
    (hnotes : Pattern.Notes t groups path.toList line.toList) :
    perlRule.capture text = some ⟨path, n, none, contextOf groups⟩ := by
  rw [capture_of_notes hsearch h.ending hnotes, h.numeral?_line,
    Text.trim_eq_self h.path, String.ofList_toList, Option.map_some]

/-- The place behind a call is captured. -/
theorem capture_perlMessage_of_isCall (h : IsPerlMessage message path line n)
    (hcall : IsCall message) :
    ∃ context, perlRule.capture (perlMessage message path line).toList =
      some ⟨path, n, none, context⟩ := by
  obtain ⟨t, group, hsearch, hnotes⟩ :=
    Pattern.search_call h.isPlace h.message (isCallFront_iff.mpr hcall)
  rw [toList_perlMessage]
  exact ⟨_, h.capture_eq_some hsearch hnotes⟩

/-- The place behind a message in which `at ` does not stand is captured. -/
theorem capture_perlMessage_of_plain (h : IsPerlMessage message path line n)
    (hcall : ¬ IsCall message) (hat : ¬ HoldsAt message) :
    perlRule.capture (perlMessage message path line).toList = some ⟨path, n, none, none⟩ := by
  obtain ⟨t, hsearch, hnotes⟩ := Pattern.search_plain h.isPlace
    (fun hfront => hcall (isCallFront_iff.mp hfront)) (fun hmem => hat (holdsAt_iff.mp hmem))
  rw [toList_perlMessage]
  exact h.capture_eq_some hsearch hnotes

/-- Another place is captured, with text of the message, if `at ` stands in a message. -/
theorem leaks_of_holdsAt (h : IsPerlMessage message path line n) (hcall : ¬ IsCall message)
    (hat : HoldsAt message) :
    Leaks message path n (perlRule.capture (perlMessage message path line).toList) := by
  obtain ⟨t, front, found, digits, groups, hsearch, hlead, hfound, hnotes, hlies⟩ :=
    Pattern.search_leaks h.isPlace h.message (fun hfront => hcall (isCallFront_iff.mp hfront))
      (holdsAt_iff.mpr hat)
  rw [toList_perlMessage, capture_of_notes hsearch hfound hnotes]
  have hlead' : IsLead (String.ofList front).toList := by simpa using hlead
  rcases hlies with ⟨between, hstart, rfl, rfl⟩ | ⟨rest, hmessage, rfl⟩
  · have hpath : String.ofList (Text.trim (between ++ (['a', 't', ' '] ++ path.toList))) =
        Text.trimmed (String.ofList between ++ "at " ++ path) := by
      simp [Text.trimmed]
    have hparts : message ++ " " = String.ofList front ++ "at " ++ String.ofList between := by
      rw [← String.toList_inj]
      simpa using hstart
    have hother : Text.trimmed (String.ofList between ++ "at " ++ path) ≠ path := by
      intro heq
      rw [← hpath, ← String.toList_inj, String.toList_ofList] at heq
      exact trim_append_ne h.ending h.path between heq
    rw [h.numeral?_line, hpath]
    exact .path hparts hlead' hother
  · have hparts : message =
        String.ofList front ++ "at " ++ String.ofList found ++ " line " ++ String.ofList rest := by
      rw [← String.toList_inj]
      simpa [placeText] using hmessage
    have hleaks : Leaks message path n ((Text.numeral? Text.largest32
        ((String.ofList rest).toList.takeWhile Text.isDigit)).map fun k =>
          ⟨Text.trimmed (String.ofList found), k, none, contextOf groups⟩) :=
      .place hparts hlead' (by simpa using hfound)
    simpa [Text.trimmed] using hleaks

/-- **Messages.** The place behind a message is captured if the message is a call, or if `at ` does
not stand in it; in each other message another path is captured, or a place that it holds. -/
theorem place_is_read_back_or_leaks (h : IsPerlMessage message path line n) :
    ∃ g, Grammar.compile Builtin.perl = .ok g ∧
      (IsCall message → ∃ context,
        g.captures (perlMessage message path line) = some ⟨path, n, none, context⟩) ∧
      (¬ IsCall message → ¬ HoldsAt message →
        g.captures (perlMessage message path line) = some ⟨path, n, none, none⟩) ∧
      (¬ IsCall message → HoldsAt message →
        Leaks message path n (g.captures (perlMessage message path line))) := by
  refine ⟨_, compile_perl, ?_⟩
  rw [Grammar.captures_singleton]
  exact ⟨capture_perlMessage_of_isCall h, capture_perlMessage_of_plain h, leaks_of_holdsAt h⟩

/-- The message of a plain `die` leads to its place. -/
theorem died_is_read_back :
    IsPerlMessage "Died" "/x/script.pl" "3" 3 ∧
      ∃ g, Grammar.compile Builtin.perl = .ok g ∧
        g.captures "Died at /x/script.pl line 3." = some ⟨"/x/script.pl", 3, none, none⟩ := by
  have hmessage : IsPerlMessage "Died" "/x/script.pl" "3" 3 :=
    ⟨by decide, ⟨"/x/script".toList, ['p', 'l'], by decide, by decide, by decide⟩,
      List.all_iff_forall_prop.mp (by decide), Text.isNumeral_toString 3, by decide⟩
  have hcall : ¬ IsCall "Died" := by
    rintro ⟨blanks, name, args, heq, -⟩
    have hmem : '(' ∈ "Died".toList := by
      rw [heq]
      simp
    exact absurd hmem (by decide)
  obtain ⟨g, hcompile, -, hplain, -⟩ := place_is_read_back_or_leaks hmessage
  exact ⟨hmessage, g, hcompile, hplain hcall (by decide)⟩

/-- The end of the word `format` is taken for the word before a path. -/
theorem format_leaks_into_path :
    IsPerlMessage "Unknown date format" "/x/script.pl" "3" 3 ∧
      ∃ g, Grammar.compile Builtin.perl = .ok g ∧
        g.captures (perlMessage "Unknown date format" "/x/script.pl" "3") =
          some ⟨"at /x/script.pl", 3, none, none⟩ := by
  have hmessage : IsPerlMessage "Unknown date format" "/x/script.pl" "3" 3 :=
    ⟨by decide, ⟨"/x/script".toList, ['p', 'l'], by decide, by decide, by decide⟩,
      List.all_iff_forall_prop.mp (by decide), Text.isNumeral_toString 3, by decide⟩
  refine ⟨hmessage, _, compile_perl, ?_⟩
  rw [Grammar.captures_singleton]
  decide

end TraceScan
