import TraceScan.Proofs.Pattern.Literals
import TraceScan.Proofs.Pattern.Template

/-!
# Frames of virtual machines

A frame names a method and, in parentheses, a file with a line number: `at name(file:line)`. For
names of arbitrary characters out of some set and an ending of the file, the module tells from a
pattern alone that it matches no such frame (`frameTemplate`, with `Template.excludes`) or that it
takes each of them apart as it should (`takesFrame`). The latter is `search_eq_some_of_takesFrame`.
-/

namespace TraceScan

/-! ## Sets -/

namespace CharSet

/-- The plain letters and digits, the low line and some more characters. -/
def wordOr (more : List Char) : CharSet :=
  unions ([range 'a' 'z', range 'A' 'Z', range '0' '9', single '_'] ++ more.map single)

/-- The characters in the names of methods. -/
def frameName : CharSet :=
  wordOr ['$', '.', '<', '>', '/']

/-- The characters in the names of files. -/
def frameFile : CharSet :=
  wordOr ['$', '.', '-']

/-- Whether a set holds one character only. -/
def isOnly (c : Char) : CharSet → Bool
  | range first last => first == c && last == c
  | _ => false

/-- That character is the only member. -/
theorem mem_iff_of_isOnly {s : CharSet} {c d : Char} (h : s.isOnly c = true) :
    s.mem d = true ↔ d = c := by
  cases s with
  | range first last =>
    simp only [isOnly, Bool.and_eq_true, beq_iff_eq] at h
    rw [h.1, h.2]
    exact mem_single
  | _ => cases h

/-- No blank is in the name of a method. -/
theorem isBlank_of_mem_frameName {c : Char} (h : frameName.mem c = true) :
    Text.isBlank c = false := by
  have hcovers : (compl blank).covers frameName = true := by decide +kernel
  simpa [mem] using mem_of_covers hcovers h

/-- No blank is in the name of a file. -/
theorem isBlank_of_mem_frameFile {c : Char} (h : frameFile.mem c = true) :
    Text.isBlank c = false := by
  have hcovers : (compl blank).covers frameFile = true := by decide +kernel
  simpa [mem] using mem_of_covers hcovers h

end CharSet

/-! ## Texts -/

/-- The text of a frame. -/
def frameText (blanks name path line : List Char) : List Char :=
  blanks ++ 'a' :: 't' :: ' ' :: (name ++ '(' :: (path ++ ':' :: (line ++ [')'])))

/-- Whether a file with the given ending and some names make a frame. -/
structure IsFrame (ending blanks name path line : List Char) : Prop where
  blanks : ∀ c ∈ blanks, Text.isBlank c = true
  name_ne_nil : name ≠ []
  name : ∀ c ∈ name, CharSet.frameName.mem c = true
  stem : ∃ stem, stem ≠ [] ∧ path = stem ++ '.' :: ending
  path : ∀ c ∈ path, CharSet.frameFile.mem c = true
  line : Text.IsDigits line

/-- The template of the frames with an ending. -/
def frameTemplate (ending : List Char) : Template :=
  .any .blank :: (Template.literal ['a', 't', ' '] ++ .any .frameName :: (Template.literal ['('] ++
    .any .frameFile :: (Template.literal ('.' :: ending ++ [':']) ++
      .any (.range '0' '9') :: Template.literal [')'])))

variable {ending blanks name path line : List Char}

/-- The template describes the frames. -/
theorem IsFrame.describes (h : IsFrame ending blanks name path line) :
    Describes (frameTemplate ending) (frameText blanks name path line) := by
  obtain ⟨stem, -, hpath⟩ := h.stem
  have hstem : ∀ c ∈ stem, CharSet.frameFile.mem c = true := fun c hc =>
    h.path c (hpath ▸ List.mem_append_left _ hc)
  have htext : frameText blanks name path line = blanks ++ (['a', 't', ' '] ++ (name ++ (['('] ++
      (stem ++ ('.' :: ending ++ [':'] ++ (line ++ ([')'] ++ []))))))) := by
    rw [hpath]
    simp [frameText]
  rw [htext]
  refine Template.describes_any h.blanks (Template.describes_literal _
    (Template.describes_any h.name (Template.describes_literal _
      (Template.describes_any hstem (Template.describes_literal _
        (Template.describes_any h.line.2 ?_))))))
  have hclose := Template.describes_literal [')'] Describes.nil
  rwa [List.append_nil] at hclose

/-- The parentheses and the colon of a frame are not in what stands before them. -/
theorem IsFrame.not_mem (h : IsFrame ending blanks name path line) :
    '(' ∉ name ∧ ':' ∉ path ∧ ')' ∉ line := by
  refine ⟨fun hmem => ?_, fun hmem => ?_, fun hmem => ?_⟩
  · exact absurd (h.name '(' hmem) (by decide)
  · exact absurd (h.path ':' hmem) (by decide)
  · exact absurd (h.line.2 ')' hmem) (by decide)

namespace Pattern

/-! ## Patterns that match -/

/-- Whether a pattern takes one or more characters of a set. -/
def takesAll (set : CharSet) : Pattern → Bool
  | seq (one s) (span t true) => s.covers set && t.covers set
  | _ => false

/-- Whether a pattern takes the names of files with an ending. -/
def takesFile (ending : List Char) : Pattern → Bool
  | seq p q => p.takesAll .frameFile && q.avoids ':' && q.takes ('.' :: ending)
  | _ => false

/-- Whether a pattern takes a frame apart: the name of the method goes to the first group, the file
to the second one and the line number to the third one. -/
def takesFrame (ending : List Char) : Pattern → Bool
  | seq (one a) (seq (one t) (seq (one space) (seq (group 1 name) (seq (one opening)
      (seq (group 2 file) (seq (one colon) (seq (group 3 number) (one closing)))))))) =>
    a.isOnly 'a' && t.isOnly 't' && space.isOnly ' ' &&
      (name.avoids '(' && name.takesAll .frameName && opening.isOnly '(') &&
      (file.avoids ':' && file.takesFile ending && colon.isOnly ':') &&
      (number.avoids ')' && number.takesAll (.range '0' '9') && closing.isOnly ')')
  | _ => false

/-- One or more characters of a set are taken. -/
theorem Takes.of_takesAll {p : Pattern} {set : CharSet} (hp : p.takesAll set = true)
    {text : List Char} (hne : text ≠ []) (htext : ∀ c ∈ text, set.mem c = true) :
    p.Takes text := by
  unfold takesAll at hp
  split at hp
  · simp only [Bool.and_eq_true] at hp
    exact .repeated hne (fun c hc => CharSet.mem_of_covers hp.1 (htext c hc)) fun c hc =>
      CharSet.mem_of_covers hp.2 (htext c hc)
  · cases hp

/-- The name of a file is taken. -/
theorem Takes.of_takesFile {p : Pattern} (hp : p.takesFile ending = true)
    (h : IsFrame ending blanks name path line) : p.Takes path := by
  obtain ⟨stem, hne, hpath⟩ := h.stem
  have hstem : ∀ c ∈ stem, CharSet.frameFile.mem c = true := fun c hc =>
    h.path c (hpath ▸ List.mem_append_left _ hc)
  unfold takesFile at hp
  split at hp
  · simp only [Bool.and_eq_true] at hp
    obtain ⟨⟨hall, havoids⟩, hending⟩ := hp
    rw [hpath]
    exact (Takes.of_takesAll hall hne hstem).seq (.of_takes havoids hending)
  · cases hp

/-- What follows a group up to a character that its pattern avoids is taken as a whole. -/
theorem run_group_one {α : Type} {i : Nat} {p : Pattern} {set : CharSet} {c : Char}
    (hset : set.isOnly c = true) (hp : p.avoids c = true) {text : List Char} (htext : c ∉ text)
    (htakes : p.Takes text) (k : Place → Option α) (before rest : List Char)
    (groups : List (Nat × Extent)) :
    run (seq (group i p) (one set)) k ⟨before, text ++ c :: rest, groups⟩ =
      k ⟨c :: (text.reverse ++ before), rest, (i, ⟨text ++ c :: rest, c :: rest⟩) :: groups⟩ := by
  have hfirst : ∀ behind, (one set).Starts behind → behind.head? = some c := by
    rintro behind ⟨_, _, _, d, more, hrest, hd, -⟩
    have hcut : behind = d :: more := hrest
    rw [hcut, (CharSet.mem_iff_of_isOnly hset).mp hd, List.head?_cons]
  calc
    run (seq (group i p) (one set)) k ⟨before, text ++ c :: rest, groups⟩
      = run (one set) k ⟨text.reverse ++ before, c :: rest,
          (i, ⟨text ++ c :: rest, c :: rest⟩) :: groups⟩ :=
      run_group_before hp hfirst htext htakes k before rest groups
    _ = _ := run_one_of_mem ((CharSet.mem_iff_of_isOnly hset).mpr rfl) _ _ _

/-- Characters with which no match starts are skipped. -/
theorem searchFrom_skip {set : CharSet} {p : Pattern} {skipped : List Char}
    (h : ∀ c ∈ skipped, set.mem c = false) (before rest : List Char) :
    searchFrom (seq (one set) p) before (skipped ++ rest) =
      searchFrom (seq (one set) p) (skipped.reverse ++ before) rest := by
  refine searchFrom_append fun a b hab hb => ?_
  obtain ⟨c, b, rfl⟩ := List.exists_cons_of_ne_nil hb
  have hc : set.mem c = false := h c (hab ▸ List.mem_append_right a List.mem_cons_self)
  exact if_neg (by simp [hc])

/-- The groups of a frame. -/
def frameGroups (name path line : List Char) : List (Nat × Extent) :=
  [(3, ⟨line ++ [')'], [')']⟩),
    (2, ⟨path ++ ':' :: (line ++ [')']), ':' :: (line ++ [')'])⟩),
    (1, ⟨name ++ '(' :: (path ++ ':' :: (line ++ [')'])), '(' :: (path ++ ':' :: (line ++ [')']))⟩)]

/-- The texts of the groups of a frame. -/
theorem group?_frameGroups (name path line before : List Char) :
    let found : Place := ⟨before, [], frameGroups name path line⟩
    found.group? 1 = some name ∧ found.group? 2 = some path ∧ found.group? 3 = some line :=
  ⟨congrArg some (text_extent_append name _), congrArg some (text_extent_append path _),
    congrArg some (text_extent_append line _)⟩

/-- **Matches.** A pattern that takes the frames with an ending takes each of them as a whole, and
the name, the file and the line number go to its groups. -/
theorem search_eq_some_of_takesFrame {p : Pattern} (hp : p.takesFrame ending = true)
    (h : IsFrame ending blanks name path line) :
    ∃ before, p.search (frameText blanks name path line) =
      some ⟨before, [], frameGroups name path line⟩ := by
  unfold takesFrame at hp
  split at hp
  · rename_i a t space method opening file colon number closing
    simp only [Bool.and_eq_true] at hp
    obtain ⟨⟨⟨⟨⟨ha, ht⟩, hspace⟩, ⟨hmethod, hname⟩, hopening⟩, ⟨hfile, hpath⟩, hcolon⟩,
      ⟨hnumber, hline⟩, hclosing⟩ := hp
    let behindPath := line ++ [')']
    let behindName := path ++ ':' :: behindPath
    let start := ' ' :: 't' :: 'a' :: (blanks.reverse ++ [])
    have hskip : ∀ c ∈ blanks, a.mem c = false := by
      intro c hc
      rw [← Bool.not_eq_true, CharSet.mem_iff_of_isOnly ha]
      rintro rfl
      exact absurd (h.blanks 'a' hc) (by decide)
    refine ⟨')' :: (line.reverse ++ ':' :: (path.reverse ++ '(' :: (name.reverse ++ start))), ?_⟩
    rw [search, frameText, searchFrom_skip hskip]
    refine searchFrom_of_run ?_
    rw [run, run_one_of_mem ((CharSet.mem_iff_of_isOnly ha).mpr rfl),
      run, run_one_of_mem ((CharSet.mem_iff_of_isOnly ht).mpr rfl),
      run, run_one_of_mem ((CharSet.mem_iff_of_isOnly hspace).mpr rfl)]
    calc
      _ = run (seq (group 1 method) (one opening)) (run (seq (group 2 file) (one colon))
            (run (seq (group 3 number) (one closing)) some))
            ⟨start, name ++ '(' :: behindName, []⟩ := rfl
      _ = run (seq (group 2 file) (one colon)) (run (seq (group 3 number) (one closing)) some) _ :=
        run_group_one hopening hmethod h.not_mem.1
          (.of_takesAll hname h.name_ne_nil h.name) _ _ _ _
      _ = run (seq (group 3 number) (one closing)) some _ :=
        run_group_one hcolon hfile h.not_mem.2.1 (.of_takesFile hpath h) _ _ _ _
      _ = _ :=
        run_group_one hclosing hnumber h.not_mem.2.2
          (.of_takesAll hline h.line.1 h.line.2) _ _ _ _
  · cases hp

end Pattern

end TraceScan
