import TraceScan.Proofs.Engine.LoneLines
import TraceScan.Proofs.Engine.Takers
import TraceScan.Proofs.Matching.Window

/-!
# Headers of C and C++

A diagnostic in a header `.h` is captured by the grammars of C and of C++ and by no other one. C
comes first and gets the diagnostic, unless the lines around it look like a build of C++ and not
like one of C: `shared_headers_go_by_surroundings`.
-/

namespace TraceScan

/-! ## Markers in reach -/

/-- Whether some other line at most `width` away from the line at `index` shows a marker. -/
def SeenNear (marker : Pattern) (lines : List String) (index width : Nat) : Prop :=
  ∃ j line, j ≠ index ∧ j ≤ index + width ∧ index ≤ j + width ∧ lines[j]? = some line ∧
    marker.occursIn (strip line).toList = true

/-- The lines of a window are the lines in reach. -/
theorem Window.getElem?_lines_within (lines : List String) (index width k : Nat) :
    (Window.within lines index width).lines[k]? =
      if index - width + k ≤ index + width then lines[index - width + k]? else none := by
  rw [lines_within, List.getElem?_drop]
  split
  · rw [List.getElem?_take_of_lt (by omega)]
  · rw [List.getElem?_take_eq_none (by omega)]

/-- A marker is in the window around a visible line if another line in reach shows it. -/
theorem windowHas_around_iff {marker : Pattern} {lines : List String} {index width : Nat}
    (hindex : index < lines.length) (hwidth : index + width < UInt64.size) :
    let window := Window.around (lines.map strip) index width
    windowHas marker window.lines window.index = true ↔ SeenNear marker lines index width := by
  intro window
  have hwindow : window = Window.within (lines.map strip) index width :=
    Window.around_eq_within (by simpa using hindex) hwidth
  have hplace : window.index = min index width := by rw [hwindow, Window.within]
  rw [windowHas_eq_true_iff, hplace, hwindow]
  simp only [Window.getElem?_lines_within, List.getElem?_map]
  constructor
  · rintro ⟨k, text, hk, htext, hoccurs⟩
    split at htext
    · obtain ⟨line, hline, rfl⟩ := Option.map_eq_some_iff.mp htext
      exact ⟨index - width + k, line, by omega, by omega, by omega, hline, hoccurs⟩
    · cases htext
  · rintro ⟨j, line, hj, hhigh, hlow, hline, hoccurs⟩
    have hback : index - width + (j - (index - width)) = j := by omega
    refine ⟨j - (index - width), strip line, by omega, ?_, hoccurs⟩
    rw [hback, if_pos hhigh, hline, Option.map_some]

/-! ## Candidates -/

/-- Of two candidates of one class, the second one is chosen if it claims the line and the first one
does not. -/
theorem Matcher.choose_pair {window : Window} {a b : Grammar × Capture}
    (hclass : b.1.grammarClass = a.1.grammarClass) :
    choose window [a, b] =
      some (if !a.1.claims window && b.1.claims window then b else a) := by
  rw [choose_cons]
  cases ha : a.1.claims window <;> cases hb : b.1.claims window <;> simp [hclass, ha, hb]

/-- A grammar that looks for a marker claims a line if its window has the marker. -/
theorem Definition.claims_grammar {d : Definition} {marker : Pattern}
    (h : d.contextMatch = some (windowHas marker)) (window : Window) :
    d.grammar.claims window = windowHas marker window.lines window.index := by
  simp [Grammar.claims, Grammar.contextMatch, Definition.grammar, h]

/-- The grammar that gets a header with some lines around it. -/
def headerOwner (window : Window) : Definition :=
  if !Builtin.c.grammar.claims window && Builtin.cpp.grammar.claims window then Builtin.cpp
  else Builtin.c

/-- The owner of a header is one of the two. -/
theorem headerOwner_mem (window : Window) : headerOwner window ∈ [Builtin.c, Builtin.cpp] := by
  unfold headerOwner
  split <;> simp

/-- Between C and C++ the owner is chosen. -/
theorem Matcher.choose_header (window : Window) (capture : Capture) :
    choose window ([Builtin.c, Builtin.cpp].map fun d => (d.grammar, capture)) =
      some ((headerOwner window).grammar, capture) := by
  have hclass : Builtin.cpp.grammar.grammarClass = Builtin.c.grammar.grammarClass := rfl
  rw [List.map_cons, List.map_cons, List.map_nil, headerOwner]
  refine (choose_pair hclass).trans (congrArg some ?_)
  split <;> rfl

/-- The owner of a header goes by the markers in reach. -/
theorem headerOwner_around {lines : List String} {index width : Nat}
    (hindex : index < lines.length) (hwidth : index + width < UInt64.size) :
    let owner := headerOwner (Window.around (lines.map strip) index width)
    let inCpp :=
      SeenNear Builtin.cppMarker lines index width ∧ ¬ SeenNear Builtin.cMarker lines index width
    (inCpp → owner = Builtin.cpp) ∧ (¬ inCpp → owner = Builtin.c) := by
  intro owner inCpp
  let window := Window.around (lines.map strip) index width
  have hc :
      Builtin.c.grammar.claims window = true ↔ SeenNear Builtin.cMarker lines index width := by
    rw [Definition.claims_grammar rfl]
    exact windowHas_around_iff hindex hwidth
  have hcpp : Builtin.cpp.grammar.claims window = true ↔
      SeenNear Builtin.cppMarker lines index width := by
    rw [Definition.claims_grammar rfl]
    exact windowHas_around_iff hindex hwidth
  have hclaims : (!Builtin.c.grammar.claims window && Builtin.cpp.grammar.claims window) = true ↔
      inCpp := by
    rw [Bool.and_eq_true, Bool.not_eq_true', hcpp, ← Bool.not_eq_true, hc, and_comm]
  exact ⟨fun h => if_pos (hclaims.mpr h), fun h => if_neg (mt hclaims.mp h)⟩

/-! ## Headers in a scan -/

/-- **Shared headers.** Let a visible line be a diagnostic in a header, `P.h:l` or `P.h:l:c`, where
the path `P` consists of any characters of paths and the numbers fit into 32 bits. In a scan by an
engine that was set up by default, whatever the other lines and the width of the window are, one
location is reported for this line. It belongs to C++ if some other line in reach shows a marker of
C++ and none shows one of C, and else to C. -/
theorem Engine.shared_headers_go_by_surroundings (home cwd : Option String)
    (stream : Option StreamId) (w : Nat) {lines : List String} {i : Nat}
    (hi : i + w < UInt64.size) {stem : String} (hne : stem ≠ "")
    (hstem : ∀ c ∈ stem.toList, isPathChar c = true) {line : String} {n : Nat}
    (hline : Text.IsNumeral line.toList n ∧ n < UInt32.size) {column : Option String}
    {k : Option Nat}
    (hcolumn : Option.Rel (fun s j => Text.IsNumeral s.toList j ∧ j < UInt32.size) column k)
    (htext : lines[i]?.map strip = some (diagnostic (stem ++ ".h") line column)) :
    let e := (ofConfig home { contextWindow := w }).1
    let path := stem ++ ".h"
    let inCpp :=
      SeenNear Builtin.cppMarker lines i w ∧ ¬ SeenNear Builtin.cMarker lines i w
    ∃ loc, (e.scan lines cwd stream).2.filter (fun l => l.position = i + 1) = [loc] ∧
      (inCpp → loc.Names Builtin.cpp path n k) ∧ (¬ inCpp → loc.Names Builtin.c path n k) ∧
      loc.path = Path.resolve home cwd path ∧ loc.text = diagnostic path line column := by
  intro e path inCpp
  have hc : (Builtin.c, ["c", "h"]) ∈ Builtin.owners := by
    simp only [Builtin.owners, List.mem_cons, true_or, or_true]
  have htaken : Builtin.TakenBy (diagnostic path line column) [Builtin.c, Builtin.cpp]
      fun _ => ⟨path, n, k, none⟩ := by
    have hh : "h" ∈ ["c", "h"] := by simp
    have hfirst : Builtin.c ∈ takersOf Builtin.takers "h" := by simp [Builtin.takersOf_header]
    have h := Builtin.takenBy_bare hfirst (Builtin.isDiagnostic hc hh hne hstem hline hcolumn)
    rwa [Builtin.takersOf_header, String.append_assoc] at h
  let owner := headerOwner (Window.around (lines.map strip) i w)
  let loc := Capture.location ⟨path, n, k, none⟩ owner.name home cwd
    (diagnostic path line column) (i + 1)
  have hmatch : e.matcher.matchInSequence (lines.map strip) i cwd (i + 1) = some loc :=
    matchInSequence_takenBy htaken (diagnostic_ne_empty path line column)
      (by rwa [List.getElem?_map]) (headerOwner_mem _) (Matcher.choose_header _ _) home cwd (i + 1)
  obtain ⟨raw, hraw, -⟩ := Option.map_eq_some_iff.mp htext
  obtain ⟨hindex, -⟩ := List.getElem?_eq_some_iff.mp hraw
  have howner : (inCpp → owner = Builtin.cpp) ∧ (¬ inCpp → owner = Builtin.c) :=
    headerOwner_around hindex hi
  refine ⟨loc, ?_, fun h => ?_, fun h => ?_, rfl, rfl⟩
  · have henabled := enabled_ofConfig home { contextWindow := w }
    rw [filter_position_scan henabled, hmatch, Option.toList_some]
  · rw [← howner.1 h]
    exact ⟨rfl, rfl, rfl, rfl, rfl⟩
  · rw [← howner.2 h]
    exact ⟨rfl, rfl, rfl, rfl, rfl⟩

/-- A header belongs to C++ in a scan where the line before it calls the compiler of C++. -/
theorem Engine.header_in_cpp_build :
    let e := (ofConfig (some "/home") { contextWindow := 1 }).1
    let lines := ["g++ -c src/widget.cpp", "util.h:4:1"]
    ∃ loc, (e.scan lines none none).2.filter (fun l => l.position = 2) = [loc] ∧
      loc.Names Builtin.cpp "util.h" 4 (some 1) := by
  intro e lines
  have hline : Text.IsNumeral "4".toList 4 ∧ 4 < UInt32.size :=
    ⟨Text.isNumeral_toString 4, by decide⟩
  have hcolumn : Option.Rel (fun (s : String) j => Text.IsNumeral s.toList j ∧ j < UInt32.size)
      (some "1") (some 1) := .some ⟨Text.isNumeral_toString 1, by decide⟩
  have hstem : ∀ c ∈ "util".toList, isPathChar c = true :=
    List.all_eq_true.mp (by decide +kernel)
  obtain ⟨loc, hscan, hcpp, -⟩ := @shared_headers_go_by_surroundings (some "/home") none none 1
    lines 1 (by decide) "util" (by decide) hstem "4" 4 hline (some "1") (some 1) hcolumn
    (by decide +kernel)
  refine ⟨loc, hscan, hcpp ⟨?_, ?_⟩⟩
  · exact ⟨0, "g++ -c src/widget.cpp", by decide, by decide, by decide, rfl, by decide +kernel⟩
  · rintro ⟨j, line, hj, hhigh, -, hline, hoccurs⟩
    -- the only other line shows no marker of C
    have hshort : j < lines.length := (List.getElem?_eq_some_iff.mp hline).1
    obtain rfl : j = 0 := by
      have hlength : lines.length = 2 := rfl
      omega
    obtain rfl : "g++ -c src/widget.cpp" = line := Option.some.inj hline
    revert hoccurs
    decide +kernel

end TraceScan
