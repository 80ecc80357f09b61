import TraceScan.Proofs.Text.Numerals
import TraceScan.Proofs.VisibleText
import TraceScan.Report.Render

/-!
# Listings in colour

A listing is a row of fragments, some of them in a style. Colours put a control sequence before and
behind each fragment in a style, and deleting these sequences leaves the listing without colours,
whatever stands in the fragments: `Location.deletes_listing` and `Report.deletes_listing`. Since
texts have normal forms, no order of the deletions goes wrong. The listing without colours is what
is visible of it if it holds no escape character and does not end in a return, and this is up to the
texts that it shows; so `colour_is_presentation_only` says of locations and reports.
-/

namespace TraceScan

open Relation (ReflTransGen)

/-! ## Texts without escape characters -/

/-- Whether no escape character stands in a text. -/
def Unescaped (s : String) : Prop :=
  escapeChar ∉ s.toList

instance (s : String) : Decidable (Unescaped s) :=
  inferInstanceAs (Decidable (escapeChar ∉ s.toList))

/-- Joined texts hold an escape character if one of them does. -/
theorem unescaped_append_iff {s t : String} :
    Unescaped (s ++ t) ↔ Unescaped s ∧ Unescaped t := by
  rw [Unescaped, String.toList_append, List.mem_append, not_or]
  rfl

/-- There is no escape character in the text of a number. -/
theorem unescaped_toString (n : Nat) : Unescaped (toString n) := by
  intro hmem
  have hdigit := (Text.isNumeral_toString n).digits.2 escapeChar hmem
  revert hdigit
  decide

/-- Padding puts no escape character into a text. -/
theorem Unescaped.padLeft {s : String} (h : Unescaped s) (width : Nat) :
    Unescaped (Text.padLeft width s) := by
  rw [Text.padLeft, unescaped_append_iff]
  refine ⟨?_, h⟩
  intro hmem
  rw [String.toList_ofList] at hmem
  exact absurd (List.eq_of_mem_replicate hmem) (by decide)

/-- Where deletions lead to a text without escape characters, stripping leads there as well, unless
there is a return at its end. -/
theorem strip_eq_iff_of_deletes {s t : String} (h : ReflTransGen Deletes s.toList t.toList)
    (ht : Unescaped t) : strip s = t ↔ t.toList.getLast? ≠ some '\r' := by
  rw [strip, visible_eq_of_deletes h, ← String.toList_inj, String.toList_ofList,
    visible_eq_self_iff]
  exact and_iff_right (sequenceFree_of_not_mem ht)

/-! ## Styles -/

/-- Parameters make a control sequence between `ESC [` and `m`. -/
theorem isSequence_of_parameters {parameters : List Char}
    (h : parameters.all isParameter = true) :
    IsSequence (escapeChar :: '[' :: (parameters ++ ['m'])) :=
  ⟨parameters, [], 'm', rfl, List.all_eq_true.mp h, fun _ hc => absurd hc List.not_mem_nil,
    by decide⟩

/-- The codes of a style are parameters. -/
theorem Style.all_isParameter_codes (style : Style) :
    style.codes.toList.all isParameter = true := by
  cases style <;> decide

/-- A text in a style stands between two control sequences, which may be deleted. -/
theorem Style.deletes_paint (style : Style) (text : String) :
    ReflTransGen Deletes (style.paint true text).toList text.toList := by
  have hopen := isSequence_of_parameters style.all_isParameter_codes
  have hclose : IsSequence (escapeChar :: '[' :: (['0'] ++ ['m'])) :=
    isSequence_of_parameters (by decide)
  have hpaint : (style.paint true text).toList =
      (escapeChar :: '[' :: (style.codes.toList ++ ['m'])) ++
        (text.toList ++ (escapeChar :: '[' :: (['0'] ++ ['m']))) := by
    simp [paint, escapeChar]
  rw [hpaint]
  exact .head ⟨[], _, _, hopen, rfl, rfl⟩
    (.single ⟨text.toList, _, [], hclose, by simp, by simp⟩)

/-! ## Fragments -/

/-- A part of a listing. -/
inductive Fragment where
  | plain (text : String)
  | styled (style : Style) (text : String)

namespace Fragment

/-- The text of a fragment. -/
def text : Fragment → String
  | plain text => text
  | styled _ text => text

/-- The text of a plain fragment. -/
@[simp] theorem text_plain (text : String) : (plain text).text = text := rfl

/-- The text of a fragment in a style. -/
@[simp] theorem text_styled (style : Style) (text : String) :
    (styled style text).text = text := rfl

/-- A fragment as it stands in a listing. -/
def writeOne (color : Bool) : Fragment → String
  | plain text => text
  | styled style text => style.paint color text

/-- Fragments one behind the other. -/
def write (color : Bool) (fragments : List Fragment) : String :=
  String.join (fragments.map (writeOne color))

variable (color : Bool) (f : Fragment) (fragments : List Fragment)

/-- No fragments leave no text. -/
theorem write_nil : write color [] = "" := rfl

/-- The first fragment stands in front. -/
theorem write_cons : write color (f :: fragments) = f.writeOne color ++ write color fragments := by
  rw [write, List.map_cons, String.join_cons]
  rfl

/-- Fragments may be written in two parts. -/
theorem write_append (others : List Fragment) :
    write color (fragments ++ others) = write color fragments ++ write color others := by
  rw [write, List.map_append, String.join_append]
  rfl

/-- Without colours a fragment stands as it is. -/
theorem writeOne_false : f.writeOne false = f.text := by
  cases f <;> rfl

/-- Deleting the sequences of its style leaves the text of a fragment. -/
theorem deletes_writeOne :
    ReflTransGen Deletes (f.writeOne true).toList (f.writeOne false).toList := by
  cases f with
  | plain text => exact .refl
  | styled style text => exact style.deletes_paint text

/-- Deleting the sequences of all styles leaves the fragments without colours. -/
theorem deletes_write :
    ReflTransGen Deletes (write true fragments).toList (write false fragments).toList := by
  induction fragments with
  | nil => exact .refl
  | cons f fragments ih =>
    rw [write_cons, write_cons, String.toList_append, String.toList_append]
    exact deletes_joined f.deletes_writeOne ih

/-- Without colours, the escape characters of fragments are those of their texts. -/
theorem unescaped_write_iff :
    Unescaped (write false fragments) ↔ ∀ f ∈ fragments, Unescaped f.text := by
  induction fragments with
  | nil => simp [write_nil, Unescaped]
  | cons f fragments ih =>
    rw [write_cons, unescaped_append_iff, writeOne_false, ih, List.forall_mem_cons]

end Fragment

open Fragment (plain styled)

/-! ## Locations -/

namespace Location

variable (l : Location)

/-- The texts of a location that are shown in a listing. -/
def shownTexts : List String :=
  [l.path, l.grammar] ++ l.context.toList

/-- The line of a location in a listing, as fragments. -/
def fragments : List Fragment :=
  [styled .dimmed (Text.padLeft 5 (toString l.position)), plain " ", styled .path l.path,
    plain ":", styled .number (toString l.line)] ++
  (match l.column with
    | some column => [plain ":", styled .number (toString column)]
    | none => []) ++
  [plain " ", styled .grammar ("[" ++ l.grammar ++ "]")] ++
  (match l.context with
    | some context => [plain " ", styled .context context]
    | none => [])

/-- A location is listed as its fragments. -/
theorem listing_eq_write (color : Bool) : l.listing color = Fragment.write color l.fragments := by
  rw [listing, fragments]
  cases l.column <;> cases l.context <;>
    simp only [Fragment.write_append, Fragment.write_cons, Fragment.write_nil, Fragment.writeOne,
      String.append_assoc, String.append_empty]

/-- Deletions lead from the line of a location in colour to the one without colours. -/
theorem deletes_listing :
    ReflTransGen Deletes (l.listing true).toList (l.listing false).toList := by
  rw [l.listing_eq_write, l.listing_eq_write]
  exact Fragment.deletes_write l.fragments

/-- The escape characters in the fragments of a location are those of its texts. -/
theorem unescaped_fragments_iff :
    (∀ f ∈ l.fragments, Unescaped f.text) ↔ ∀ s ∈ l.shownTexts, Unescaped s := by
  have hposition : Unescaped (Text.padLeft 5 (toString l.position)) :=
    (unescaped_toString l.position).padLeft 5
  have hsigns : Unescaped " " ∧ Unescaped ":" ∧ Unescaped "[" ∧ Unescaped "]" := by
    decide
  rw [fragments, shownTexts]
  cases l.column <;> cases l.context <;>
    simp only [Fragment.text_plain, Fragment.text_styled, unescaped_append_iff,
      unescaped_toString, hposition, hsigns, List.forall_mem_append, List.forall_mem_cons,
      Option.toList, List.not_mem_nil, false_imp_iff, implies_true, true_and, and_true]

/-- Without colours, the escape characters in the line of a location are those of its texts. -/
theorem unescaped_listing_iff :
    Unescaped (l.listing false) ↔ ∀ s ∈ l.shownTexts, Unescaped s := by
  rw [l.listing_eq_write, Fragment.unescaped_write_iff, l.unescaped_fragments_iff]

/-- The line of a location ends in a return just if its context does. -/
theorem getLast?_listing_eq_return_iff :
    (l.listing false).toList.getLast? = some '\r' ↔
      ∃ context ∈ l.context, context.toList.getLast? = some '\r' := by
  have hblank : " ".toList.getLast? = some ' ' := rfl
  have hbracket : "]".toList.getLast? = some ']' := rfl
  have hempty : "".toList.getLast? = none := rfl
  unfold listing
  simp only [Style.paint, String.toList_append, List.getLast?_append, Bool.false_eq_true, if_false]
  cases l.context with
  | none =>
    -- the bracket behind the grammar's name comes last
    rw [hempty, hbracket, Option.none_or, Option.some_or]
    simp
  | some context =>
    -- the blank before the context comes last if the context is empty
    rw [String.toList_append, List.getLast?_append, hblank]
    cases h : context.toList.getLast? with
    | none => simp [h]
    | some c => simp [h]

end Location

/-! ## Reports -/

namespace Report

variable (r : Report)

/-- The texts of a report that are shown in a listing. -/
def shownTexts : List String :=
  r.cwd.toList ++ r.found.flatMap Location.shownTexts

/-- The listing of a report, as fragments. -/
def fragments : List Fragment :=
  [plain "\n", styled .banner "  Stack Trace Locations  ", plain "\n\n"] ++
  (match r.cwd with
    | some cwd => [styled .bold "Cwd:", plain (" " ++ cwd ++ "\n")]
    | none => []) ++
  [styled .bold "Lines:", plain (" " ++ toString r.stats.totalLines ++ "  "),
    styled .bold "Locations:", plain (" " ++ toString r.stats.totalMatches ++ "  "),
    styled .bold "Files:", plain (" " ++ toString r.stats.distinctFiles ++ "\n\n")] ++
  (if r.found.isEmpty then [styled .dimmed "No stack trace locations", plain "\n"] else []) ++
  (r.found.flatMap fun l => l.fragments ++ [plain "\n"]) ++
  [plain "\n", styled .dimmed ("Scan completed in " ++ toString r.metadata.durationMs ++ "ms"),
    plain "\n"]

/-- A report is listed as its fragments. -/
theorem listing_eq_write (color : Bool) : r.listing color = Fragment.write color r.fragments := by
  have hfound : String.join (r.found.map fun l => l.listing color ++ "\n") =
      Fragment.write color (r.found.flatMap fun l => l.fragments ++ [.plain "\n"]) := by
    induction r.found with
    | nil => rfl
    | cons l found ih =>
      rw [List.map_cons, String.join_cons, ih, List.flatMap_cons, Fragment.write_append,
        Fragment.write_append, l.listing_eq_write, Fragment.write_cons, Fragment.write_nil,
        String.append_empty, Fragment.writeOne]
  unfold listing fragments
  rw [hfound]
  cases r.cwd <;> cases r.found.isEmpty <;>
    simp only [Fragment.write_append, Fragment.write_cons, Fragment.write_nil, Fragment.writeOne,
      String.append_assoc, String.append_empty, if_true, if_false, Bool.false_eq_true]

/-- Deletions lead from the listing of a report in colour to the one without colours. -/
theorem deletes_listing :
    ReflTransGen Deletes (r.listing true).toList (r.listing false).toList := by
  rw [r.listing_eq_write, r.listing_eq_write]
  exact Fragment.deletes_write r.fragments

/-- Without colours, the escape characters in the listing of a report are those of its texts. -/
theorem unescaped_listing_iff :
    Unescaped (r.listing false) ↔ ∀ s ∈ r.shownTexts, Unescaped s := by
  have hlabels : Unescaped "  Stack Trace Locations  " ∧ Unescaped "No stack trace locations" ∧
      Unescaped "Cwd:" ∧ Unescaped "Lines:" ∧ Unescaped "Locations:" ∧ Unescaped "Files:" ∧
      Unescaped "Scan completed in " ∧ Unescaped "ms" := by
    decide
  have hgaps : Unescaped " " ∧ Unescaped "  " ∧ Unescaped "\n" ∧ Unescaped "\n\n" := by
    decide
  rw [r.listing_eq_write, Fragment.unescaped_write_iff, shownTexts]
  unfold fragments
  cases r.cwd <;> cases r.found.isEmpty <;>
    simp only [Fragment.text_plain, Fragment.text_styled, unescaped_append_iff,
      unescaped_toString, Location.unescaped_fragments_iff, hlabels, hgaps, Bool.false_eq_true,
      if_false, if_true, List.forall_mem_append, List.forall_mem_cons, List.forall_mem_flatMap,
      Option.toList, List.not_mem_nil, false_imp_iff, implies_true, true_and, and_true]

/-- The listing of a report ends in a line break. -/
theorem getLast?_listing : (r.listing false).toList.getLast? = some '\n' := by
  have hbreak : "\n".toList.getLast? = some '\n' := rfl
  unfold listing
  rw [String.toList_append, List.getLast?_append, hbreak, Option.some_or]

end Report

/-! ## Colours -/

/-- **Colours are presentation.** If no escape character stands in the path, the grammar's name or
the context of a location, stripping its line in colour gives the line without colours, unless a
return at the end of the context goes as well. The same holds of the listing of a report, which ends
in a line break, if no escape character stands in its directory or in such a text of a location.
What is not shown, such as the lines themselves, may hold anything. -/
theorem colour_is_presentation_only :
    (∀ l : Location, (∀ s ∈ l.shownTexts, Unescaped s) →
      (strip (l.listing true) = l.listing false ↔
        ∀ context ∈ l.context, context.toList.getLast? ≠ some '\r')) ∧
    ∀ r : Report, (∀ s ∈ r.shownTexts, Unescaped s) →
      strip (r.listing true) = r.listing false := by
  constructor
  · intro l hl
    rw [strip_eq_iff_of_deletes l.deletes_listing (l.unescaped_listing_iff.mpr hl), Ne,
      l.getLast?_listing_eq_return_iff]
    push Not
    rfl
  · intro r hr
    rw [strip_eq_iff_of_deletes r.deletes_listing (r.unescaped_listing_iff.mpr hr),
      r.getLast?_listing]
    decide

/-- Locations whose texts look like control sequences without their escape characters, or are empty,
lose only their colours, and so does a report on them. A return at the end of a context is lost. -/
theorem bracketed_texts_keep :
    let l : Location := {
      grammar := "0m", rawPath := "\x1b[0m", path := "[0m;31m.rs", line := 7, column := some 3
      context := some "[1;44m", position := 12, text := "\x1b[31m" }
    let r : Report := {
      cwd := some "[2J", found := [l, { l with context := some "" }], stats := ⟨12, 2, 1, []⟩
      metadata := ⟨3, "T", toolVersion⟩ }
    let returned : Location := { l with context := some "main\r" }
    l.listing false = "   12 [0m;31m.rs:7:3 [0m] [1;44m" ∧
      strip (l.listing true) = l.listing false ∧
      r.listing false =
        "\n  Stack Trace Locations  \n\nCwd: [2J\nLines: 12  Locations: 2  Files: 1\n\n" ++
          "   12 [0m;31m.rs:7:3 [0m] [1;44m\n" ++ "   12 [0m;31m.rs:7:3 [0m] \n" ++
          "\nScan completed in 3ms\n" ∧
      strip (r.listing true) = r.listing false ∧
      returned.listing true =
        "\x1b[2m   12\x1b[0m \x1b[96m[0m;31m.rs\x1b[0m:\x1b[33m7\x1b[0m:\x1b[33m3\x1b[0m " ++
          "\x1b[35m[0m]\x1b[0m \x1b[32mmain\r\x1b[0m" ∧
      strip (returned.listing true) ≠ returned.listing false := by
  intro l r returned
  refine ⟨by decide +kernel, ?_, by decide +kernel, colour_is_presentation_only.2 r (by decide),
    by decide +kernel, ?_⟩
  · exact (colour_is_presentation_only.1 l (by decide)).mpr (by decide)
  · intro h
    have hlast := (colour_is_presentation_only.1 returned (by decide)).mp h "main\r" rfl
    exact hlast (by decide)

end TraceScan
