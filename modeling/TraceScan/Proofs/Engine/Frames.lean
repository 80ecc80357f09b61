import TraceScan.Proofs.Engine.Tables
import TraceScan.Proofs.Pattern.Frames

/-!
# Frames in the default engine

The grammars of Java and Kotlin share the form of their frames. Java takes files of both languages,
but Kotlin is tried first and takes its own. No other built-in grammar captures such a frame
(`exact_frame`). Java has no opinion on context, so that no line in the neighbourhood changes the
outcome: `frames_go_by_extension`.
-/

namespace TraceScan

variable {ending blanks name path line : List Char} {n : Nat}

/-! ## Rules -/

namespace CompiledRule

/-- Whether a rule takes frames with an ending apart. -/
def takesFrame (ending : List Char) (r : CompiledRule) : Bool :=
  r.pathGroup == 2 && r.lineGroup == 3 && r.columnGroup == none && r.contextGroup == some 1 &&
    r.pattern.takesFrame ending

variable {r : CompiledRule}

/-- A rule that takes frames captures the file, the line number and the name of the method. -/
theorem capture_of_takesFrame (hr : r.takesFrame ending = true)
    (h : IsFrame ending blanks name path line) (hline : Text.IsNumeral line n)
    (hn : n < UInt32.size) :
    r.capture (frameText blanks name path line) =
      some ⟨String.ofList path, n, none, some (String.ofList name)⟩ := by
  obtain ⟨pattern, pathGroup, lineGroup, columnGroup, contextGroup⟩ := r
  simp only [takesFrame, Bool.and_eq_true, beq_iff_eq] at hr
  obtain ⟨⟨⟨⟨rfl, rfl⟩, rfl⟩, rfl⟩, hpattern⟩ := hr
  obtain ⟨before, hsearch⟩ := Pattern.search_eq_some_of_takesFrame hpattern h
  obtain ⟨hnameGroup, hpathGroup, hlineGroup⟩ :=
    Pattern.group?_frameGroups name path line before
  generalize Place.mk before [] (Pattern.frameGroups name path line) = found at *
  have hnumber : Text.numeral? Text.largest32 line = some n :=
    Text.numeral?_eq_some hline (Nat.le_sub_one_of_lt hn)
  have hpath : Text.trim path = path :=
    Text.trim_eq_self fun c hc => CharSet.isBlank_of_mem_frameFile (h.path c hc)
  have hname : Text.trim name = name :=
    Text.trim_eq_self fun c hc => CharSet.isBlank_of_mem_frameName (h.name c hc)
  have hne : path ≠ [] := by
    obtain ⟨stem, -, rfl⟩ := h.stem
    simp
  simp [capture, hsearch, hpathGroup, hlineGroup, hnameGroup, hpath, hname, hnumber, hne,
    h.name_ne_nil]

/-- A rule whose pattern has no place in the template captures no frame. -/
theorem capture_of_excludes (hr : (frameTemplate ending).excludes r.pattern = true)
    (h : IsFrame ending blanks name path line) :
    r.capture (frameText blanks name path line) = none := by
  rw [capture, Pattern.find_eq_search, Template.search_eq_none_of_excludes hr h.describes]
  rfl

end CompiledRule

namespace EndingCheck

/-- The checks for frames. -/
def frame : EndingCheck where
  takes _ ending r := r.takesFrame ending
  refuses ending r := (frameTemplate ending).excludes r.pattern

/-- Frames are captured as the checks say. -/
theorem reads_frame (h : IsFrame ending blanks name path line) (hline : Text.IsNumeral line n)
    (hn : n < UInt32.size) :
    frame.Reads ending (frameText blanks name path line) fun _ =>
      ⟨String.ofList path, n, none, some (String.ofList name)⟩ where
  takes _ _ hr := CompiledRule.capture_of_takesFrame hr h hline hn
  refuses _ hr := CompiledRule.capture_of_excludes hr h

end EndingCheck

/-! ## The built-in grammars -/

namespace Builtin

/-- The built-in grammars in the order in which they are tried, each with the endings of the frames
that it takes. -/
def frameTakers : OwnerTable :=
  (kotlin, ["kt", "kts"]) :: [python, csharp, javascript].map (·, []) ++
    (java, ["java", "kt", "kts"]) ::
      [go, rust, lua, ruby, php, perl, elixir, erlang, swift, haskell, c, cpp].map (·, [])

/-- The table holds the built-in grammars in the order in which they are tried. -/
theorem map_fst_frameTakers : frameTakers.map Prod.fst = Registry.defaultOrder := rfl

/-- The characters of the table. -/
def spelledFrameTakers : { spellings // List.Forall₂ Spelling.Of frameTakers spellings } := by
  apply Subtype.mk
  repeat' first
    | exact List.Forall₂.nil
    | apply List.Forall₂.cons
    | apply Spelling.Of.mk (s := ⟨_, _⟩)
    | exact rfl
    | apply spell_append

/-- **The check.** The table is exact for frames. -/
theorem exact_frame : EndingCheck.frame.Exact frameTakers := by
  refine EndingCheck.exact_sound spelledFrameTakers.2 (isNamed_of_map_fst map_fst_frameTakers) ?_
  decide +kernel

/-- The endings of frames with the grammars to which the frames belong. -/
def frameOwners : List (String × Definition) :=
  [("kt", kotlin), ("kts", kotlin), ("java", java)]

/-- The owner is the first grammar that takes an ending, and the others have no opinions. -/
theorem takersOf_frame : ∀ row ∈ frameOwners, ∃ others,
    takersOf frameTakers row.1 = row.2 :: others ∧ ∀ d ∈ others, d.contextMatch = none := by
  simp only [frameOwners, List.forall_mem_cons, List.not_mem_nil, IsEmpty.forall_iff, implies_true,
    and_true]
  refine ⟨⟨[java], rfl, ?_⟩, ⟨[java], rfl, ?_⟩, ⟨[], rfl, ?_⟩⟩ <;> simp [java]

/-- The characters of the endings may stand in names of files. -/
theorem frameFile_frameOwners : ∀ row ∈ frameOwners,
    row.1.toList.all CharSet.frameFile.mem = true := by
  simp only [frameOwners, List.forall_mem_cons, List.not_mem_nil, IsEmpty.forall_iff, implies_true,
    and_true]
  decide +kernel

end Builtin

/-! ## Texts -/

/-- The text of a frame. -/
theorem ofList_frameText (blanks name file line : String) :
    String.ofList (frameText blanks.toList name.toList file.toList line.toList) =
      blanks ++ "at " ++ name ++ "(" ++ file ++ ":" ++ line ++ ")" := by
  rw [← String.toList_inj]
  simp [frameText, String.toList_append]

/-- Names of a method and of a file with an ending of the owners make a frame. -/
theorem Builtin.isFrame {extension : String} {owner : Definition}
    (howner : (extension, owner) ∈ frameOwners) {blanks name stem line : String}
    (hblanks : ∀ c ∈ blanks.toList, Text.isBlank c = true)
    (hname : name ≠ "" ∧ ∀ c ∈ name.toList, CharSet.frameName.mem c = true)
    (hstem : stem ≠ "" ∧ ∀ c ∈ stem.toList, CharSet.frameFile.mem c = true)
    (hline : Text.IsNumeral line.toList n) :
    IsFrame extension.toList blanks.toList name.toList (stem ++ "." ++ extension).toList
      line.toList := by
  have hfile : (stem ++ "." ++ extension).toList = stem.toList ++ '.' :: extension.toList := by
    simp [String.toList_append]
  have hending : ∀ c ∈ extension.toList, CharSet.frameFile.mem c = true :=
    List.all_eq_true.mp (frameFile_frameOwners _ howner)
  refine ⟨hblanks, by simpa using hname.1, hname.2, ⟨stem.toList, by simpa using hstem.1, hfile⟩,
    ?_, hline.digits⟩
  rw [hfile]
  exact List.forall_mem_append.mpr ⟨hstem.2, List.forall_mem_cons.mpr ⟨by decide, hending⟩⟩

/-- A frame is visible as it is. -/
theorem strip_frameText (h : IsFrame ending blanks name path line) :
    strip (String.ofList (frameText blanks name path line)) =
      String.ofList (frameText blanks name path line) := by
  have hbracket : ∀ {s : List Char} {p : Char → Bool}, (∀ c ∈ s, p c = true) → p '[' = false →
      '[' ∉ s := by
    intro s p hs hp hmem
    rw [hs '[' hmem] at hp
    cases hp
  refine strip_ofList ?_ ?_
  · have hblanks := hbracket h.blanks (by decide)
    have hname := hbracket h.name (by decide)
    have hpath := hbracket h.path (by decide)
    have hline := hbracket h.line.2 (by decide)
    simp [frameText, hblanks, hname, hpath, hline]
  · have hlast : frameText blanks name path line =
        (blanks ++ 'a' :: 't' :: ' ' :: (name ++ '(' :: (path ++ ':' :: line))) ++ [')'] := by
      simp [frameText]
    rw [hlast, List.getLast?_concat]
    decide

/-! ## Candidates -/

/-- A grammar without an opinion claims no line. -/
theorem Definition.claims_of_none {d : Definition} (h : d.contextMatch = none) (window : Window) :
    d.grammar.claims window = false := by
  simp [Grammar.claims, Grammar.contextMatch, Definition.grammar, h]

/-- A leader is chosen if no other candidate claims the line. -/
theorem Matcher.choose_eq_leader {window : Window} {leader : Grammar × Capture}
    {others : List (Grammar × Capture)} (h : ∀ c ∈ others, c.1.claims window = false) :
    choose window (leader :: others) = some leader := by
  rw [choose_cons, List.takeWhile_cons, if_pos (beq_self_eq_true _), List.find?_cons]
  cases leader.1.claims window with
  | true => rfl
  | false =>
    have hnone : (others.takeWhile (·.1.grammarClass == leader.1.grammarClass)).find?
        (·.1.claims window) = none := by
      rw [List.find?_eq_none]
      intro c hc
      simp [h c ((List.takeWhile_prefix _).subset hc)]
    rw [hnone]
    rfl

/-! ## Locations -/

namespace Engine

/-- **Frames.** Let a line be a frame, with the name of a method and of a file of any characters
that such names may have, behind any blanks. An engine that was set up by default finds the file
with the line number, and the name of the method as its context, for Kotlin if the file ends in
`.kt` or `.kts` and for Java if it ends in `.java`. So it does with the line alone, and for the line
in every sequence of lines, whatever the other lines and the width of the window are. -/
theorem frames_go_by_extension (home : Option String) (w : Nat) (cwd : Option String)
    {extension : String} {owner : Definition}
    (howner : (extension, owner) ∈
      [("kt", Builtin.kotlin), ("kts", Builtin.kotlin), ("java", Builtin.java)])
    {blanks name stem line : String} (hblanks : ∀ c ∈ blanks.toList, Text.isBlank c = true)
    (hname : name ≠ "" ∧ ∀ c ∈ name.toList, CharSet.frameName.mem c = true)
    (hstem : stem ≠ "" ∧ ∀ c ∈ stem.toList, CharSet.frameFile.mem c = true) {n : Nat}
    (hline : Text.IsNumeral line.toList n ∧ n < UInt32.size) :
    let e := (ofConfig home { contextWindow := w }).1
    let file := stem ++ "." ++ extension
    let text := blanks ++ "at " ++ name ++ "(" ++ file ++ ":" ++ line ++ ")"
    let found := fun position : Nat =>
      ({ grammar := owner.name, rawPath := file, path := Path.resolve home cwd file, line := n,
         column := none, context := some name, position := position, text := text } : Location)
    e.matchLine text cwd = some (found 1) ∧
      (∀ (lines : List String) (i position : Nat), lines[i]? = some text →
        e.matcher.matchInSequence lines i cwd position = some (found position)) ∧
      ∀ (lines : List String) (i : Nat) (stream : Option StreamId),
        lines[i]?.map strip = some text →
          (e.scan lines cwd stream).2.filter (fun l => l.position = i + 1) = [found (i + 1)] := by
  intro e file text found
  have hframe := Builtin.isFrame howner hblanks hname hstem hline.1
  have htext : String.ofList (frameText blanks.toList name.toList file.toList line.toList) = text :=
    ofList_frameText blanks name file line
  have hne : text ≠ "" := by
    rw [← htext]
    simp [frameText]
  have hvisible : strip text = text := by
    rw [← htext]
    exact strip_frameText hframe
  obtain ⟨others, htakers, hopinions⟩ := Builtin.takersOf_frame _ howner
  have hfirst : owner ∈ owner :: others := List.mem_cons_self
  have htaken : Builtin.TakenBy text (owner :: others) fun _ => ⟨file, n, none, some name⟩ := by
    have h := Builtin.exact_frame.takenBy Builtin.map_fst_frameTakers (htakers ▸ hfirst)
      (EndingCheck.reads_frame hframe hline.1 hline.2)
    rwa [htakers, htext, String.ofList_toList, String.ofList_toList] at h
  have hsequence : ∀ (lines : List String) (i position : Nat), lines[i]? = some text →
      e.matcher.matchInSequence lines i cwd position = some (found position) := by
    intro lines i position hline
    refine matchInSequence_takenBy htaken hne hline hfirst ?_ home cwd position
    refine Matcher.choose_eq_leader fun c hc => ?_
    obtain ⟨d, hd, rfl⟩ := List.mem_map.mp hc
    exact Definition.claims_of_none (hopinions d hd) _
  refine ⟨matchLine_takenBy htaken rfl hvisible hne home w cwd, hsequence, ?_⟩
  intro lines i stream hline
  have henabled := enabled_ofConfig home { contextWindow := w }
  have hvisibleLine : (lines.map strip)[i]? = some text := List.getElem?_map.trans hline
  rw [filter_position_scan henabled, hsequence _ _ _ hvisibleLine, Option.toList_some]

/-- A frame in a Kotlin file belongs to Kotlin, alone and between two frames of Java. -/
theorem kotlin_frame_between_java_frames :
    let e := (ofConfig (some "/home") { contextWindow := 1 }).1
    let frame := "\tat a.B.<init>(B.kt:7)"
    let other := "\tat a.C.run(C.java:8)"
    ∃ loc, loc.grammar = "kotlin" ∧ loc.rawPath = "B.kt" ∧ loc.path = "/w/B.kt" ∧ loc.line = 7 ∧
      loc.context = some "a.B.<init>" ∧ e.matchLine frame (some "/w") = some loc ∧
      e.matcher.matchInSequence [other, frame, other] 1 (some "/w") 1 = some loc := by
  intro e frame other
  have hframe : "\t" ++ "at " ++ "a.B.<init>" ++ "(" ++ ("B" ++ "." ++ "kt") ++ ":" ++ "7" ++ ")" =
      frame := by
    decide +kernel
  have hblanks : ∀ c ∈ "\t".toList, Text.isBlank c = true :=
    List.all_eq_true.mp (by decide +kernel)
  have hname : "a.B.<init>" ≠ "" ∧ ∀ c ∈ "a.B.<init>".toList, CharSet.frameName.mem c = true :=
    ⟨by decide, List.all_eq_true.mp (by decide +kernel)⟩
  have hstem : "B" ≠ "" ∧ ∀ c ∈ "B".toList, CharSet.frameFile.mem c = true :=
    ⟨by decide, List.all_eq_true.mp (by decide +kernel)⟩
  obtain ⟨halone, hsequence, -⟩ := @frames_go_by_extension (some "/home") 1 (some "/w")
    "kt" Builtin.kotlin List.mem_cons_self "\t" "a.B.<init>" "B" "7" hblanks hname hstem 7
    ⟨Text.isNumeral_toString 7, by decide⟩
  dsimp only at halone hsequence
  rw [hframe] at halone hsequence
  exact ⟨_, rfl, rfl, by decide +kernel, rfl, rfl, halone, hsequence [other, frame, other] 1 1 rfl⟩

end Engine

end TraceScan
