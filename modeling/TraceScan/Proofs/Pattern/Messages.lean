import TraceScan.Proofs.Pattern.Literals

/-!
# Places in messages

A Perl message ends in the place that it comes from: `message at path line 3.` The pattern for such
places can be read wherever `at ` stands, in the message as well, and in the middle of a word too.
The module says where places lie that can be read (`Lies`, `lies_of_append`). The first one is
found, except behind a text that looks like a call (`IsLead`).
-/

namespace TraceScan

/-! ## Texts -/

/-- The text of a place, with what stands behind the words. -/
def placeText (path behind : List Char) : List Char :=
  ['a', 't', ' '] ++ (path ++ ([' ', 'l', 'i', 'n', 'e', ' '] ++ behind))

/-- The names of Perl files end in one of these. -/
def perlEndings : List (List Char) :=
  [['p', 'l'], ['p', 'm'], ['t'], ['c', 'g', 'i']]

/-- Whether a text ends as the names of Perl files do. -/
def IsPerlPath (path : List Char) : Prop :=
  ∃ stem, ∃ ending ∈ perlEndings, stem ≠ [] ∧ path = stem ++ '.' :: ending

/-- Whether a path and a text of digits make a place: the path has no blanks and breaks no line. -/
structure IsPlace (path line : List Char) : Prop where
  blank : ' ' ∉ path
  lineBreak : '\n' ∉ path
  ending : IsPerlPath path
  digits : Text.IsDigits line

/-- Whether a text is a call up to the place behind it: a name with arguments, at the start. -/
def IsCallFront (front : List Char) : Prop :=
  ∃ blanks name args, front = blanks ++ (name ++ '(' :: (args ++
      [')', ' ', 'c', 'a', 'l', 'l', 'e', 'd', ' '])) ∧
    (∀ c ∈ blanks, Text.isBlank c = true) ∧ name ≠ [] ∧ ∀ c ∈ name, Text.isWord c = true ∨ c = ':'

/-- Whether `at ` does not stand in a text, or the text is a call up to the place behind it. -/
def IsLead (front : List Char) : Prop :=
  ¬ ['a', 't', ' '] <:+: front ∨ IsCallFront front

/-- What ends as the names of Perl files do still does behind another text. -/
theorem IsPerlPath.append {path : List Char} (h : IsPerlPath path) (front : List Char) :
    IsPerlPath (front ++ path) := by
  obtain ⟨stem, ending, hending, hne, rfl⟩ := h
  exact ⟨front ++ stem, ending, hending, by simp [hne], by simp⟩

/-- There is no blank behind the words of a place. -/
theorem IsPlace.blank_not_mem {path line : List Char} (h : IsPlace path line) :
    ' ' ∉ line ++ ['.'] := by
  intro hmem
  rcases List.mem_append.mp hmem with hmem | hmem
  · exact absurd (h.digits.2 ' ' hmem) (by decide)
  · simp at hmem

/-- The digits behind the words of a place are those of the line number. -/
theorem IsPlace.takeWhile_isDigit {path line : List Char} (h : IsPlace path line) :
    (line ++ ['.']).takeWhile Text.isDigit = line := by
  have hdigit : ∀ c ∈ line, Text.isDigit c = true :=
    fun c hc => Text.isDigit_of_isPlainDigit (h.digits.2 c hc)
  have hstop : ['.'].takeWhile Text.isDigit = [] := by decide
  rw [List.takeWhile_append_of_pos hdigit, hstop, List.append_nil]

/-! ## Where places lie -/

/-- Where a place lies in a message with a place of its own behind it: what stands before the place,
its path, and what stands behind its words. -/
inductive Lies (message path tail : List Char) : List Char → List Char → List Char → Prop where
  /-- It is the place of the message. -/
  | behind : Lies message path tail (message ++ [' ']) path tail
  /-- It starts in the message and ends where the place of the message does. -/
  | across {front between : List Char}
      (h : message ++ [' '] = front ++ (['a', 't', ' '] ++ between)) :
      Lies message path tail front (between ++ (['a', 't', ' '] ++ path)) tail
  /-- Its words stand in the message, and all that is behind them is behind its words. -/
  | within {front found rest : List Char} (h : message = front ++ placeText found rest) :
      Lies message path tail front found (rest ++ ' ' :: placeText path tail)

/-- A cut at a blank before a digit is the last cut at a blank, or before that one. -/
theorem append_cut_before_digit {a b s rest : List Char} {d : Char} (hb : ' ' ∉ b)
    (hd : Text.isDigit d = true) (h : a ++ ' ' :: b = s ++ ' ' :: d :: rest) :
    (a = s ∧ b = d :: rest) ∨ ∃ rest', a = s ++ ' ' :: d :: rest' := by
  rcases append_last_cut_cases hb h with heq | ⟨between, hfront, hbehind⟩
  · exact Or.inl heq
  · cases between with
    | nil =>
      obtain ⟨rfl, -⟩ := List.cons.inj hbehind
      exact absurd hd (by decide)
    | cons c between =>
      obtain ⟨rfl, -⟩ := List.cons.inj hbehind
      exact Or.inr ⟨between, hfront⟩

variable {message path tail : List Char}

/-- The words before a digit are those of the place of the message, or they stand in the message. -/
theorem eq_or_within_of_append {front number : List Char} {d : Char} (hpath : ' ' ∉ path)
    (htail : ' ' ∉ tail) (hd : Text.isDigit d = true)
    (h : message ++ ' ' :: placeText path tail =
      front ++ ([' ', 'l', 'i', 'n', 'e', ' '] ++ d :: number)) :
    (front = message ++ ' ' :: (['a', 't', ' '] ++ path) ∧ d :: number = tail) ∨
      ∃ rest, message = front ++ ([' ', 'l', 'i', 'n', 'e', ' '] ++ rest) := by
  let words := front ++ [' ', 'l', 'i', 'n', 'e']
  have hcut : (((message ++ ' ' :: ['a', 't']) ++ ' ' :: path) ++ ' ' :: ['l', 'i', 'n', 'e']) ++
      ' ' :: tail = words ++ ' ' :: d :: number := by
    simpa [placeText, words] using h
  -- the words end before one of the last four blanks, or in the message
  rcases append_cut_before_digit htail hd hcut with ⟨heq, hnumber⟩ | ⟨rest, hcut⟩
  · have hfront : front ++ [' ', 'l', 'i', 'n', 'e'] =
        (message ++ ' ' :: (['a', 't', ' '] ++ path)) ++ [' ', 'l', 'i', 'n', 'e'] := by
      simpa [words] using heq.symm
    exact Or.inl ⟨List.append_cancel_right hfront, hnumber.symm⟩
  rcases append_cut_before_digit (by decide) hd hcut with ⟨-, heq⟩ | ⟨rest, hcut⟩
  · obtain ⟨rfl, -⟩ := List.cons.inj heq
    exact absurd hd (by decide)
  rcases append_cut_before_digit hpath hd hcut with ⟨heq, -⟩ | ⟨rest, hcut⟩
  · have hlast := congrArg List.getLast? heq
    simp [words] at hlast
  rcases append_cut_before_digit (by decide) hd hcut with ⟨-, heq⟩ | ⟨rest, hcut⟩
  · obtain ⟨rfl, -⟩ := List.cons.inj heq
    exact absurd hd (by decide)
  · exact Or.inr ⟨d :: rest, by simpa [words] using hcut⟩

/-- **Places.** A place whose line number stands in a message with a place behind it, or in that
place, is that place, or it starts in the message. -/
theorem lies_of_append {front found number : List Char} {d : Char} (hpath : ' ' ∉ path)
    (htail : ' ' ∉ tail) (hd : Text.isDigit d = true)
    (h : message ++ ' ' :: placeText path tail = front ++ placeText found (d :: number)) :
    Lies message path tail front found (d :: number) := by
  have hwords : message ++ ' ' :: placeText path tail = (front ++ (['a', 't', ' '] ++ found)) ++
      ([' ', 'l', 'i', 'n', 'e', ' '] ++ d :: number) := by
    simpa [placeText] using h
  rcases eq_or_within_of_append hpath htail hd hwords with ⟨heq, hnumber⟩ | ⟨rest, hrest⟩
  · rw [hnumber]
    have hcut : (message ++ ' ' :: ['a', 't']) ++ ' ' :: path =
        (front ++ ['a', 't']) ++ ' ' :: found := by
      simpa using heq.symm
    rcases append_last_cut_cases hpath hcut with ⟨hfront, rfl⟩ | ⟨between, hfront, rfl⟩
    · have hmessage : message ++ [' '] = front := by
        have hat : (message ++ [' ']) ++ ['a', 't'] = front ++ ['a', 't'] := by simpa using hfront
        exact List.append_cancel_right hat
      exact hmessage ▸ .behind
    · -- the words `at ` of the message are those of the place, or the place starts before them
      rcases append_last_cut_cases (by decide) hfront with ⟨rfl, rfl⟩ | ⟨more, rfl, rfl⟩
      · have hstart : front ++ ['a', 't'] ++ [' '] = front ++ (['a', 't', ' '] ++ []) := by simp
        exact .across hstart
      · have hstart : (front ++ ['a', 't']) ++ ' ' :: more ++ [' '] =
            front ++ (['a', 't', ' '] ++ (more ++ [' '])) := by simp
        have hacross : Lies _ path tail front ((more ++ [' ']) ++ (['a', 't', ' '] ++ path)) tail :=
          .across hstart
        simpa using hacross
  · obtain rfl : message = front ++ placeText found rest := by
      simpa [placeText] using hrest
    have hnumber : rest ++ ' ' :: placeText path tail = d :: number := by
      have hwhole : (front ++ placeText found []) ++ (rest ++ ' ' :: placeText path tail) =
          (front ++ placeText found []) ++ d :: number := by
        simpa [placeText] using h
      exact List.append_cancel_left hwhole
    exact hnumber ▸ .within rfl

namespace Lies

variable {front found number : List Char}

/-- What stands before a place is not longer than the message. -/
theorem length_front_le (h : Lies message path tail front found number) :
    front.length ≤ message.length + 1 := by
  cases h with
  | behind => simp
  | across h =>
    have hlength := congrArg List.length h
    simp only [List.length_append, List.length_cons, List.length_nil] at hlength
    omega
  | within h =>
    have hlength := congrArg List.length h
    rw [List.length_append] at hlength
    omega

/-- A place is the one of the message, or its first word stands in the message. -/
theorem eq_or_infix (h : Lies message path tail front found number) :
    (front = message ++ [' '] ∧ found = path ∧ number = tail) ∨
      ['a', 't', ' '] <:+: message ++ [' '] := by
  cases h with
  | behind => exact Or.inl ⟨rfl, rfl, rfl⟩
  | @across _ between h => exact Or.inr ⟨front, between, by simpa using h.symm⟩
  | @within _ _ rest h =>
    refine Or.inr ⟨front, found ++ ([' ', 'l', 'i', 'n', 'e', ' '] ++ rest) ++ [' '], ?_⟩
    rw [h, placeText]
    simp

end Lies

namespace Pattern

/-! ## Patterns -/

/-- The characters of names of functions. -/
def functionName : CharSet :=
  .union .word (.single ':')

/-- The pattern for calls, up to the word behind them. -/
def callFront : Pattern :=
  seq (look .textStart) (seq (span .blank true) (seq (group 1 (oneOrMore functionName true))
    (lead ['('] (seq (span .inLine true)
      (literally [')', ' ', 'c', 'a', 'l', 'l', 'e', 'd', ' '])))))

/-- The part of the pattern for calls that takes the name. -/
def callName : Pattern :=
  seq (look .textStart) (seq (span .blank true) (group 1 (oneOrMore functionName true)))

/-- The part of the pattern for calls that takes the arguments. -/
def callArguments : Pattern :=
  lead ['('] (seq (span .inLine true)
    (literally [')', ' ', 'c', 'a', 'l', 'l', 'e', 'd', ' ']))

/-- The pattern for the names of Perl files. -/
def perlPath : Pattern :=
  seq (oneOrMore .inLine false) (lead ['.'] (oneOf perlEndings))

/-- The pattern for places. -/
def perlPlace : Pattern :=
  lead ['a', 't', ' '] (seq (group 2 perlPath)
    (lead [' ', 'l', 'i', 'n', 'e', ' '] (group 3 (oneOrMore .digit true))))

/-- The pattern for places, perhaps behind a call. -/
def perlPattern : Pattern :=
  seq (alt callFront empty) perlPlace

/-! ## Ways -/

/-- The pattern for names takes names of Perl files only. -/
theorem way_perlPath {s t : Place} (h : Way perlPath s t) :
    ∃ found, IsPerlPath found ∧ s.rest = found ++ t.rest ∧ t.groups = s.groups := by
  obtain ⟨m, hstem, hdot⟩ := h
  obtain ⟨stem, hne, -, hrest, hgroups⟩ := hstem.of_oneOrMore
  obtain ⟨m', hending, hbehind, hgroups'⟩ := hdot.of_lead
  obtain ⟨ending, hmem, hway⟩ := (way_oneOf_iff (by decide)).mp hending
  obtain ⟨hlast, hgroups''⟩ := hway.of_literally
  refine ⟨stem ++ '.' :: ending, ⟨stem, ending, hmem, hne, rfl⟩, ?_, ?_⟩
  · simp [hrest, hbehind, hlast]
  · rw [hgroups'', hgroups', hgroups]

/-- The pattern for names takes all names of Perl files in one line. -/
theorem takes_perlPath (h : IsPerlPath path) (hbreak : '\n' ∉ path) : perlPath.Takes path := by
  obtain ⟨stem, ending, hending, hne, rfl⟩ := h
  have hstem : ∀ c ∈ stem, CharSet.inLine.mem c = true := fun c hc =>
    CharSet.mem_inLine.mpr fun heq => hbreak (heq ▸ List.mem_append_left _ hc)
  have hendings : ∀ e ∈ perlEndings, (oneOf perlEndings).Takes e := fun e he _ rest _ =>
    (way_oneOf_iff (by decide)).mpr ⟨e, he, (way_literally_iff e).mpr ⟨rest, rfl, rfl⟩⟩
  exact (takes_oneOrMore hne hstem).seq (takes_lead ['.'] (hendings ending hending))

/-- The pattern for calls takes calls, at the start of a text. -/
theorem way_callFront {s t : Place} (h : Way callFront s t) :
    s.before = [] ∧ ∃ front, IsCallFront front ∧ s.rest = front ++ t.rest := by
  obtain ⟨m, ⟨hholds, rfl⟩, m₁, hblanks, m₂, hgroup, hopen⟩ := h
  obtain ⟨blanks, hallBlanks, hrest, -⟩ := hblanks.of_span
  obtain ⟨m₃, hname, hrest₂, -⟩ := hgroup.of_group
  obtain ⟨name, hne, hallName, hrest₁, -⟩ := hname.of_oneOrMore
  obtain ⟨m₄, ⟨m₅, hargs, hcalled⟩, hrest₃, -⟩ := hopen.of_lead
  obtain ⟨args, -, hrest₄, -⟩ := hargs.of_span
  obtain ⟨hrest₅, -⟩ := hcalled.of_literally
  refine ⟨by simpa [Assertion.holds] using hholds, _,
    ⟨blanks, name, args, rfl, hallBlanks, hne, ?_⟩, ?_⟩
  · intro c hc
    simpa [functionName, CharSet.mem] using hallName c hc
  · simp [hrest, hrest₁, ← hrest₂, hrest₃, hrest₄, hrest₅]

/-- What the pattern for the name of a call takes. -/
theorem way_callName {s t : Place} (h : Way callName s t) :
    ∃ used name, '(' ∉ used ∧ s.rest = used ++ t.rest ∧ t.groups = (1, name) :: s.groups := by
  obtain ⟨m, ⟨-, rfl⟩, m₁, hblanks, hgroup⟩ := h
  obtain ⟨blanks, hallBlanks, hrest, hgroups⟩ := hblanks.of_span
  obtain ⟨m₂, hname, hrest₂, hgroups₂⟩ := hgroup.of_group
  obtain ⟨name, -, hallName, hrest₁, hgroups₁⟩ := hname.of_oneOrMore
  have hopen : '(' ∉ blanks ++ name := by
    intro hmem
    rcases List.mem_append.mp hmem with hmem | hmem
    · exact absurd (hallBlanks '(' hmem) (by decide)
    · exact absurd (hallName '(' hmem) (by decide)
  refine ⟨blanks ++ name, ⟨m₁.rest, m₂.rest⟩, hopen, ?_, ?_⟩
  · rw [hrest, hrest₁, hrest₂, List.append_assoc]
  · rw [hgroups₂, hgroups₁, hgroups]

/-! ## Places that are read -/

/-- Whether a path and the digits of a line number were noted, on top of some groups. -/
def Notes (t : Place) (groups : List (Nat × Extent)) (path digits : List Char) : Prop :=
  ∃ e e', t.groups = (3, e) :: (2, e') :: groups ∧ e.text = digits ∧ e'.text = path

/-- What was noted is in the second and the third group. -/
theorem Notes.group? {t : Place} {groups : List (Nat × Extent)} {digits : List Char}
    (h : Notes t groups path digits) :
    t.group? 2 = some path ∧ t.group? 3 = some digits ∧
      t.group? 1 = (groups.lookup 1).map Extent.text := by
  obtain ⟨e, e', hgroups, rfl, rfl⟩ := h
  rw [Place.group?, Place.group?, Place.group?, hgroups]
  exact ⟨rfl, rfl, rfl⟩

/-- What is read as a place, and what is noted of it. -/
theorem exists_of_run_perlPlace {s t : Place} (h : run perlPlace some s = some t) :
    ∃ found d number, s.rest = placeText found (d :: number) ∧ Text.isDigit d = true ∧
      IsPerlPath found ∧ Notes t s.groups found ((d :: number).takeWhile Text.isDigit) := by
  let words : Pattern := lead ['a', 't', ' '] (seq (group 2 perlPath)
    (literally [' ', 'l', 'i', 'n', 'e', ' ']))
  have hrun : run words (run (group 3 (oneOrMore .digit true)) some) s = some t := h
  obtain ⟨m, hwords, hnumber⟩ := (run_realizes words).sound _ _ _ hrun
  obtain ⟨m₁, ⟨m₂, hgroup, hline⟩, hat, hgroups₁⟩ := hwords.of_lead
  obtain ⟨m₃, hpath, hrest₂, hgroups₂⟩ := hgroup.of_group
  obtain ⟨found, hperl, hfound, hgroups₃⟩ := way_perlPath hpath
  obtain ⟨hrest, hgroups⟩ := hline.of_literally
  obtain ⟨d, number, e, hdigits, hd, hgroups', he⟩ := exists_of_run_group hnumber
  refine ⟨found, d, number, ?_, hd, hperl, e, ⟨m₁.rest, m₃.rest⟩, ?_, he, ?_⟩
  · rw [hat, hfound, ← hrest₂, hrest, hdigits]
    rfl
  · rw [hgroups', hgroups, hgroups₂, hgroups₃, hgroups₁]
  · rw [hfound]
    exact text_extent_append found _

/-- Where a place can be read, its words stand. -/
theorem exists_of_starts_perlPlace {text : List Char} (h : perlPlace.Starts text) :
    ∃ found d number, text = placeText found (d :: number) ∧ Text.isDigit d = true := by
  obtain ⟨_, _, t, hway⟩ := h
  obtain ⟨t, hrun⟩ := Option.isSome_iff_exists.mp
    ((run_realizes perlPlace).complete some _ t hway rfl)
  obtain ⟨found, d, number, htext, hd, -⟩ := exists_of_run_perlPlace hrun
  exact ⟨found, d, number, htext, hd⟩

/-- What is read by the pattern for messages is a place, with nothing or a call before it. -/
theorem exists_of_run_perlPattern {s t : Place} (h : run perlPattern some s = some t) :
    ∃ front m, s.rest = front ++ m.rest ∧ run perlPlace some m = some t ∧
      (front = [] ∧ m.groups = s.groups ∨ s.before = [] ∧ IsCallFront front) := by
  obtain ⟨m, hway | rfl, hplace⟩ := (run_realizes (alt callFront empty)).sound _ _ _ h
  · obtain ⟨hstart, front, hfront, hrest⟩ := way_callFront hway
    exact ⟨front, m, hrest, hplace, Or.inr ⟨hstart, hfront⟩⟩
  · exact ⟨[], m, rfl, hplace, Or.inl ⟨rfl, rfl⟩⟩

/-- Where a place lies that is read in a message with a place behind it, and what is noted of it. -/
theorem exists_lies_of_run {skipped rest : List Char} {t : Place} (hpath : ' ' ∉ path)
    (htail : ' ' ∉ tail) (htext : skipped ++ rest = message ++ ' ' :: placeText path tail)
    (h : run perlPattern some ⟨skipped.reverse ++ [], rest, []⟩ = some t) :
    ∃ front found number groups, Lies message path tail front found number ∧ IsPerlPath found ∧
      Notes t groups found (number.takeWhile Text.isDigit) ∧
        (front = skipped ∧ groups = [] ∨ IsCallFront front) := by
  obtain ⟨front, m, hrest, hplace, hfront⟩ := exists_of_run_perlPattern h
  obtain ⟨found, d, number, hfound, hd, hperl, hnotes⟩ := exists_of_run_perlPlace hplace
  obtain rfl : rest = front ++ placeText found (d :: number) := hfound ▸ hrest
  rw [← List.append_assoc] at htext
  have hlies : Lies message path tail (skipped ++ front) found (d :: number) :=
    lies_of_append hpath htail hd htext.symm
  rcases hfront with ⟨rfl, hgroups⟩ | ⟨hbefore, hcall⟩
  · rw [List.append_nil] at hlies
    exact ⟨skipped, found, _, m.groups, hlies, hperl, hnotes, Or.inl ⟨rfl, hgroups⟩⟩
  · -- a call is at the start of the text only
    obtain rfl : skipped = [] := by simpa using hbefore
    exact ⟨front, found, _, m.groups, hlies, hperl, hnotes, Or.inr hcall⟩

/-! ## Searches -/

variable {line : List Char}

/-- A message and the words behind it, with the blank between them on the left. -/
theorem append_placeText (message path tail : List Char) :
    message ++ ' ' :: placeText path tail = (message ++ [' ']) ++ placeText path tail := by
  simp

/-- The digits before a blank are those of the text before it. -/
theorem takeWhile_isDigit_append (s rest : List Char) :
    (s ++ ' ' :: rest).takeWhile Text.isDigit = s.takeWhile Text.isDigit := by
  have hblank : (' ' :: rest).takeWhile Text.isDigit = [] := List.takeWhile_cons_of_neg (by decide)
  induction s with
  | nil => exact hblank
  | cons c s ih =>
    rw [List.cons_append, List.takeWhile_cons, List.takeWhile_cons, ih]

/-- A place can be read, also if there are blanks in its path. -/
theorem exists_way_perlPlace (hpath : IsPerlPath path) (hbreak : '\n' ∉ path)
    (hline : Text.IsDigits line) (before rest : List Char) (groups : List (Nat × Extent)) :
    ∃ t, Way perlPlace ⟨before, placeText path (line ++ rest), groups⟩ t := by
  have hdigits : ∀ c ∈ line, CharSet.digit.mem c = true :=
    fun c hc => Text.isDigit_of_isPlainDigit (hline.2 c hc)
  have hnumber : (oneOrMore .digit true).Takes line := takes_oneOrMore hline.1 hdigits
  exact ⟨_, (way_lead_iff _).mpr ⟨_, rfl, _, ⟨_, takes_perlPath hpath hbreak _ _ _, rfl⟩,
    (way_lead_iff _).mpr ⟨_, rfl, _, hnumber _ _ _, rfl⟩⟩⟩

/-- The pattern for messages can be read where a place stands. -/
theorem isSome_run_perlPattern (hpath : IsPerlPath path) (hbreak : '\n' ∉ path)
    (hline : Text.IsDigits line) (before rest : List Char) :
    (run perlPattern some ⟨before, placeText path (line ++ rest), []⟩).isSome := by
  obtain ⟨t, hway⟩ := exists_way_perlPlace hpath hbreak hline before rest []
  exact (run_realizes perlPattern).complete some _ t ⟨_, Or.inr rfl, hway⟩ rfl

/-- A place whose path holds no blank is read in one way. -/
theorem exists_run_perlPlace (h : IsPlace path line) (before : List Char)
    (groups : List (Nat × Extent)) :
    ∃ t, run perlPlace some ⟨before, placeText path (line ++ ['.']), groups⟩ = some t ∧
      Notes t groups path line := by
  obtain ⟨_, hway⟩ := exists_way_perlPlace h.ending h.lineBreak h.digits before ['.'] groups
  obtain ⟨t, hrun⟩ := Option.isSome_iff_exists.mp
    ((run_realizes perlPlace).complete some _ _ hway rfl)
  obtain ⟨found, d, number, htext, hd, -, hnotes⟩ := exists_of_run_perlPlace hrun
  -- the place stands behind no message at all
  have hwords : [] ++ ' ' :: placeText path (line ++ ['.']) =
      [' '] ++ placeText found (d :: number) := congrArg (' ' :: ·) htext
  have hlies := lies_of_append h.blank h.blank_not_mem hd hwords
  obtain ⟨-, rfl, hnumber⟩ := hlies.eq_or_infix.resolve_right (by decide)
  rw [hnumber, h.takeWhile_isDigit] at hnotes
  exact ⟨t, hrun, hnotes⟩

/-- Something is found in a message with a place behind it. -/
theorem exists_search (h : IsPlace path line) (message : List Char) :
    ∃ t, perlPattern.search (message ++ ' ' :: placeText path (line ++ ['.'])) = some t := by
  rw [append_placeText]
  exact Option.isSome_iff_exists.mp (isSome_searchFrom
    (isSome_run_perlPattern h.ending h.lineBreak h.digits ((message ++ [' ']).reverse ++ []) ['.']))

/-- **Plain messages.** In a message that is no call and in which `at ` does not stand, the place
behind it is found. -/
theorem search_plain (h : IsPlace path line) (hcall : ¬ IsCallFront (message ++ [' ']))
    (hat : ¬ ['a', 't', ' '] <:+: message ++ [' ']) :
    ∃ t, perlPattern.search (message ++ ' ' :: placeText path (line ++ ['.'])) = some t ∧
      Notes t [] path line := by
  obtain ⟨t, hsearch⟩ := exists_search h message
  obtain ⟨skipped, rest, htext, hrun, -⟩ := exists_run_of_searchFrom hsearch
  obtain ⟨front, found, number, groups, hlies, -, hnotes, hfront⟩ :=
    exists_lies_of_run h.blank h.blank_not_mem htext hrun
  obtain ⟨rfl, rfl, rfl⟩ := hlies.eq_or_infix.resolve_right hat
  obtain ⟨-, rfl⟩ := hfront.resolve_right hcall
  rw [h.takeWhile_isDigit] at hnotes
  exact ⟨t, hsearch, hnotes⟩

/-- Where the first place is found, `at ` does not stand in the message before it. -/
theorem not_infix_of_first (h : IsPlace path line) (hmessage : '\n' ∉ message)
    {skipped more : List Char} (hparts : message ++ [' '] = skipped ++ more)
    (hfirst : ∀ a b, a ++ b = message ++ ' ' :: placeText path (line ++ ['.']) →
      a.length < skipped.length → run perlPattern some ⟨a.reverse ++ [], b, []⟩ = none) :
    ¬ ['a', 't', ' '] <:+: skipped := by
  rintro ⟨a, b, rfl⟩
  -- a place that starts at these words ends where the place behind the message does
  have hline : '\n' ∉ message ++ [' '] := by simp [hmessage]
  have hbreak : '\n' ∉ (b ++ more) ++ (['a', 't', ' '] ++ path) := by
    simp only [hparts, List.mem_append, not_or] at hline ⊢
    exact ⟨⟨hline.1.2, hline.2⟩, by decide, h.lineBreak⟩
  have hsome := isSome_run_perlPattern ((h.ending.append ['a', 't', ' ']).append (b ++ more)) hbreak
    h.digits (a.reverse ++ []) ['.']
  have hjoin : a ++ placeText ((b ++ more) ++ (['a', 't', ' '] ++ path)) (line ++ ['.']) =
      message ++ ' ' :: placeText path (line ++ ['.']) := by
    rw [append_placeText, hparts]
    simp [placeText]
  rw [hfirst a _ hjoin (by simp)] at hsome
  cases hsome

/-- **Leaks.** In a message that is no call, let `at ` stand. Then what is found starts in the
message and ends where the place behind it does, or the message holds a whole place. -/
theorem search_leaks (h : IsPlace path line) (hmessage : '\n' ∉ message)
    (hcall : ¬ IsCallFront (message ++ [' '])) (hat : ['a', 't', ' '] <:+: message ++ [' ']) :
    ∃ t front found digits groups,
      perlPattern.search (message ++ ' ' :: placeText path (line ++ ['.'])) = some t ∧
        IsLead front ∧ IsPerlPath found ∧ Notes t groups found digits ∧
          ((∃ between, message ++ [' '] = front ++ (['a', 't', ' '] ++ between) ∧
            found = between ++ (['a', 't', ' '] ++ path) ∧ digits = line) ∨
              ∃ rest, message = front ++ placeText found rest ∧
                digits = rest.takeWhile Text.isDigit) := by
  obtain ⟨t, hsearch⟩ := exists_search h message
  obtain ⟨skipped, rest, htext, hrun, hfirst⟩ := exists_run_of_searchFrom hsearch
  obtain ⟨front, found, number, groups, hlies, hperl, hnotes, hfront⟩ :=
    exists_lies_of_run h.blank h.blank_not_mem htext hrun
  have hlead : ∀ more, message ++ [' '] = front ++ more → IsLead front := by
    intro more hparts
    rcases hfront with ⟨rfl, -⟩ | hfront
    · exact Or.inl (not_infix_of_first h hmessage hparts hfirst)
    · exact Or.inr hfront
  cases hlies with
  | behind =>
    rcases hlead [] (by simp) with hnot | hfront
    · exact absurd hat hnot
    · exact absurd hfront hcall
  | @across _ between hstart =>
    exact ⟨t, front, _, _, groups, hsearch, hlead _ hstart, hperl, hnotes,
      Or.inl ⟨between, hstart, rfl, h.takeWhile_isDigit⟩⟩
  | @within _ _ more hwithin =>
    have hparts : message ++ [' '] = front ++ (placeText found more ++ [' ']) := by
      rw [hwithin, List.append_assoc]
    exact ⟨t, front, found, _, groups, hsearch, hlead _ hparts, hperl, hnotes,
      Or.inr ⟨more, hwithin, takeWhile_isDigit_append more _⟩⟩

/-! ## Calls -/

/-- The text behind the arguments of a call. -/
def calledText (path line : List Char) : List Char :=
  [')', ' ', 'c', 'a', 'l', 'l', 'e', 'd', ' '] ++ placeText path (line ++ ['.'])

/-- The arguments of a call go on to the last parenthesis that is closed before a place. -/
theorem run_callArguments (h : IsPlace path line) {args : List Char} (hargs : '\n' ∉ args)
    (before : List Char) (groups : List (Nat × Extent)) :
    ∃ t, run callArguments (run perlPlace some)
      ⟨before, '(' :: (args ++ calledText path line), groups⟩ = some t ∧
        Notes t groups path line := by
  let called := [')', ' ', 'c', 'a', 'l', 'l', 'e', 'd', ' ']
  let behind : List Char → List Char → Option Place := fun before rest =>
    run (literally called) (run perlPlace some) ⟨before, rest, groups⟩
  have hinLine : ∀ c ∈ args, CharSet.inLine.mem c = true := fun c hc =>
    CharSet.mem_inLine.mpr fun heq => hargs (heq ▸ hc)
  obtain ⟨t, hplace, hnotes⟩ :=
    exists_run_perlPlace h (called.reverse ++ (args.reverse ++ '(' :: before)) groups
  have hhere : behind (args.reverse ++ '(' :: before) (calledText path line) = some t :=
    (run_literally called _ _ _ _).trans hplace
  have hlater : ∀ more rest, more ++ rest = calledText path line → more ≠ [] →
      behind (more.reverse ++ (args.reverse ++ '(' :: before)) rest = none := by
    intro more rest htext hmore
    have hnot : ¬ (seq (literally called) perlPlace).Starts rest := by
      intro hstarts
      obtain ⟨place, rfl, hplace⟩ := starts_literally_seq hstarts
      obtain ⟨found, d, number, rfl, hd⟩ := exists_of_starts_perlPlace hplace
      -- the words behind the arguments are a message with a place behind it
      have hwords : [')', ' ', 'c', 'a', 'l', 'l', 'e', 'd'] ++
          ' ' :: placeText path (line ++ ['.']) =
            (more ++ called) ++ placeText found (d :: number) := by
        rw [List.append_assoc, htext]
        rfl
      have hlength := (lies_of_append h.blank h.blank_not_mem hd hwords).length_front_le
      have hpositive := List.length_pos_of_ne_nil hmore
      simp only [List.length_append, called, List.length_cons, List.length_nil] at hlength
      omega
    exact run_eq_none_of_not_starts hnot _ _ _
  refine ⟨t, ?_, hnotes⟩
  calc
    _ = spanGreedy .inLine behind ('(' :: before) (args ++ calledText path line) :=
      run_lead ['('] _ _ _ _ _
    _ = some t := spanGreedy_eq_last hinLine hhere hlater

/-- A call is read up to the place behind it. -/
theorem run_call (h : IsPlace path line) {blanks name args : List Char}
    (hblanks : ∀ c ∈ blanks, Text.isBlank c = true) (hne : name ≠ [])
    (hname : ∀ c ∈ name, Text.isWord c = true ∨ c = ':') (hargs : '\n' ∉ args) :
    ∃ t group, run callFront (run perlPlace some)
      ⟨[], blanks ++ (name ++ '(' :: (args ++ calledText path line)), []⟩ = some t ∧
        Notes t [(1, group)] path line := by
  let arguments := args ++ calledText path line
  let behind := run callArguments (run perlPlace some)
  have hchars : ∀ c ∈ name, functionName.mem c = true := fun c hc => by
    simpa [functionName, CharSet.mem] using hname c hc
  have hway : Way callName ⟨[], blanks ++ (name ++ '(' :: arguments), []⟩
      ⟨name.reverse ++ (blanks.reverse ++ []), '(' :: arguments,
        [(1, ⟨name ++ '(' :: arguments, '(' :: arguments⟩)]⟩ :=
    ⟨_, ⟨rfl, rfl⟩, _, ⟨blanks, _, rfl, hblanks, rfl⟩, _,
      way_oneOrMore_iff.mpr ⟨name, _, hne, rfl, hchars, rfl⟩, rfl⟩
  obtain ⟨_, hrun, -⟩ := run_callArguments h hargs (name.reverse ++ (blanks.reverse ++ []))
    [(1, ⟨name ++ '(' :: arguments, '(' :: arguments⟩)]
  -- so the call is read in some way, and each way leads to the first opening parenthesis
  obtain ⟨t, hfound⟩ := Option.isSome_iff_exists.mp
    ((run_realizes callName).complete behind _ _ hway (Option.isSome_iff_exists.mpr ⟨_, hrun⟩))
  obtain ⟨⟨before, rest, groups⟩, hreached, hbehind⟩ := (run_realizes callName).sound _ _ _ hfound
  obtain ⟨used, group, hused, hrest, hgroups⟩ := way_callName hreached
  obtain rfl : groups = [(1, group)] := hgroups
  obtain ⟨rest, rfl⟩ : ∃ rest', rest = '(' :: rest' := List.head?_eq_some_iff.mp
    (head?_of_starts_lead (starts_of_isSome_run (Option.isSome_iff_exists.mpr ⟨_, hbehind⟩)))
  obtain ⟨used', _, hused', hrest', -⟩ := way_callName hway
  have hcut : used ++ '(' :: rest = used' ++ '(' :: arguments := hrest.symm.trans hrest'
  obtain rfl : rest = arguments := by
    rcases append_cut_cases hused hcut with ⟨-, heq⟩ | ⟨more, rfl, -⟩
    · exact heq.symm
    · exact absurd (by simp) hused'
  obtain ⟨t', hargsRun, hnotes⟩ := run_callArguments h hargs before [(1, group)]
  obtain rfl : t = t' := Option.some.inj (hbehind.symm.trans hargsRun)
  exact ⟨t, group, hfound, hnotes⟩

/-- **Calls.** In a call the place behind it is found. -/
theorem search_call (h : IsPlace path line) (hmessage : '\n' ∉ message)
    (hcall : IsCallFront (message ++ [' '])) :
    ∃ t group, perlPattern.search (message ++ ' ' :: placeText path (line ++ ['.'])) = some t ∧
      Notes t [(1, group)] path line := by
  obtain ⟨blanks, name, args, hfront, hblanks, hne, hname⟩ := hcall
  have hline : '\n' ∉ message ++ [' '] := by simp [hmessage]
  have hargs : '\n' ∉ args := fun hmem => hline (by rw [hfront]; simp [hmem])
  have htext : message ++ ' ' :: placeText path (line ++ ['.']) =
      blanks ++ (name ++ '(' :: (args ++ calledText path line)) := by
    rw [append_placeText, hfront]
    simp [calledText]
  obtain ⟨t, group, hrun, hnotes⟩ := run_call h hblanks hne hname hargs
  refine ⟨t, group, ?_, hnotes⟩
  rw [search, htext]
  refine searchFrom_of_run ?_
  rw [perlPattern, run]
  exact run_alt_left hrun

end Pattern

end TraceScan
