import TraceScan.Grammar.Compiled
import TraceScan.Proofs.Pattern.Groups
import TraceScan.Proofs.Text.Trimming

/-!
# Where captures come from

A capture is put together from the groups of a match: the path and the context are trimmed, and the
line and the column are read as numbers. All of it comes from the line that was searched, whatever
the pattern of the rule is: `takenFrom_of_captures`.
-/

namespace TraceScan

/-! ## Parts of a text -/

namespace Text

/-- Whether a string is a part of a text, with something in it and no blank at either end. -/
structure HoldsTrimmed (text : List Char) (s : String) : Prop where
  ne : s ≠ ""
  trimmed_eq : trimmed s = s
  part : s.toList <:+: text

/-- Whether a part of a text is read as a number of 32 bits. -/
def HoldsNumber (text : List Char) (n : Nat) : Prop :=
  ∃ part, part <:+: text ∧ numeral? largest32 part = some n

/-- Trimming a part of a text leaves such a part, unless nothing is left. -/
theorem holdsTrimmed_trim {text part : List Char} (h : part <:+: text) (hne : trim part ≠ []) :
    HoldsTrimmed text (String.ofList (trim part)) where
  ne := by simpa using hne
  trimmed_eq := by rw [trimmed, String.toList_ofList, trim_trim]
  part := by
    rw [String.toList_ofList]
    exact (infix_trim part).trans h

/-- A text of which something is left is kept when it is trimmed. -/
theorem filter_trim {part : Option (List Char)} (h : ∀ s ∈ part, trim s ≠ []) :
    (part.map trim).filter (!·.isEmpty) = part.map trim := by
  cases part with
  | none => rfl
  | some s => simp [h s rfl]

end Text

/-! ## Captures -/

/-- Whether all that a capture holds comes from a text. -/
structure Capture.TakenFrom (c : Capture) (text : List Char) : Prop where
  path : Text.HoldsTrimmed text c.path
  line : Text.HoldsNumber text c.line
  column : ∀ n ∈ c.column, Text.HoldsNumber text n
  context : ∀ name ∈ c.context, Text.HoldsTrimmed text name

/-- A match with a path that is not blank is captured if its line number can be read. -/
theorem CompiledRule.capture_eq_map {rule : CompiledRule} {line path digits : List Char}
    {found : Place} (hfound : rule.pattern.search line = some found)
    (hpath : found.group? rule.pathGroup = some path) (hvisible : Text.trim path ≠ [])
    (hdigits : found.group? rule.lineGroup = some digits) {column context : Option (List Char)}
    (hcolumn : rule.columnGroup.bind found.group? = column)
    (hcontext : rule.contextGroup.bind found.group? = context) :
    rule.capture line = (Text.numeral? Text.largest32 digits).map fun n =>
      { path := String.ofList (Text.trim path)
        line := n
        column := column.bind (Text.numeral? Text.largest32)
        context := ((context.map Text.trim).filter (!·.isEmpty)).map String.ofList } := by
  have hempty : ¬ (Text.trim path).isEmpty = true := by simpa using hvisible
  subst hcolumn hcontext
  simp only [capture, Pattern.find_eq_search, hfound, hpath, hdigits, hempty, Option.bind_eq_bind,
    Option.bind_some, Option.pure_def, Bool.false_eq_true, if_false]
  cases Text.numeral? Text.largest32 digits <;> rfl

/-- A match with a path that is not blank and with a line number is captured. -/
theorem CompiledRule.capture_of_found {rule : CompiledRule} {line path digits : List Char} {n : Nat}
    {found : Place} (hfound : rule.pattern.search line = some found)
    (hpath : found.group? rule.pathGroup = some path) (hvisible : Text.trim path ≠ [])
    (hdigits : found.group? rule.lineGroup = some digits)
    (hn : Text.numeral? Text.largest32 digits = some n) {column context : Option (List Char)}
    (hcolumn : rule.columnGroup.bind found.group? = column)
    (hcontext : rule.contextGroup.bind found.group? = context) :
    rule.capture line = some
      { path := String.ofList (Text.trim path)
        line := n
        column := column.bind (Text.numeral? Text.largest32)
        context := ((context.map Text.trim).filter (!·.isEmpty)).map String.ofList } := by
  rw [capture_eq_map hfound hpath hvisible hdigits hcolumn hcontext, hn, Option.map_some]

/-- What the first rule captures, the grammar captures. -/
theorem Grammar.captures_of_capture {d : Definition} {rule : CompiledRule}
    {later : List CompiledRule} {line : String} {c : Capture}
    (h : rule.capture line.toList = some c) :
    (⟨d, rule :: later⟩ : Grammar).captures line = some c := by
  rw [captures, List.findSome?_cons, h]

/-- A rule takes its captures from the line. -/
theorem CompiledRule.takenFrom_of_capture {rule : CompiledRule} {line : List Char} {c : Capture}
    (h : rule.capture line = some c) : c.TakenFrom line := by
  unfold capture at h
  obtain ⟨found, hfound, h⟩ := Option.bind_eq_some_iff.mp h
  obtain ⟨path, hpath, h⟩ := Option.bind_eq_some_iff.mp h
  have hpart : ∀ {index part}, found.group? index = some part → part <:+: line :=
    fun hgroup => Pattern.infix_of_group? hfound hgroup
  dsimp only at h
  split at h
  · cases h
  rename_i hne
  obtain ⟨digits, hdigits, h⟩ := Option.bind_eq_some_iff.mp h
  obtain ⟨number, hnumber, h⟩ := Option.bind_eq_some_iff.mp h
  obtain rfl := Option.some.inj h
  refine ⟨Text.holdsTrimmed_trim (hpart hpath) (by simpa using hne),
    ⟨digits, hpart hdigits, hnumber⟩, ?_, ?_⟩
  · intro n hn
    obtain ⟨part, hgroup, hn⟩ := Option.bind_eq_some_iff.mp hn
    obtain ⟨index, -, hgroup⟩ := Option.bind_eq_some_iff.mp hgroup
    exact ⟨part, hpart hgroup, hn⟩
  · intro name hname
    obtain ⟨trimmed, htrimmed, rfl⟩ := Option.map_eq_some_iff.mp hname
    obtain ⟨hcontext, hne⟩ := Option.filter_eq_some_iff.mp htrimmed
    obtain ⟨part, htaken, rfl⟩ := Option.map_eq_some_iff.mp hcontext
    obtain ⟨index, -, hgroup⟩ := Option.bind_eq_some_iff.mp htaken
    exact Text.holdsTrimmed_trim (hpart hgroup) (by simpa using hne)

/-- **Captures.** A grammar takes its captures from the line, whatever its patterns are. -/
theorem Grammar.takenFrom_of_captures {g : Grammar} {line : String} {c : Capture}
    (h : g.captures line = some c) : c.TakenFrom line.toList := by
  obtain ⟨rule, -, hrule⟩ := List.exists_of_findSome?_eq_some h
  exact CompiledRule.takenFrom_of_capture hrule

end TraceScan
