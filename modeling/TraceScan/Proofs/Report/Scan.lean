import TraceScan.Proofs.Report.Document
import TraceScan.Proofs.Report.Statistics

/-!
# Reports of scans

The numbers in the report of a scan are in range if the number of lines and the duration are: line
and column numbers were read as numbers of 32 bits, and everything that is counted is counted among
the lines. So each report that a scan makes can be read back: `scanReport_is_read_back`.
-/

namespace TraceScan

/-! ## Locations -/

/-- A number that stands in a text as one of 32 bits is one. -/
theorem Text.HoldsNumber.le {text : List Char} {n : Nat} (h : HoldsNumber text n) :
    n ≤ largest32 := by
  obtain ⟨part, -, hn⟩ := h
  obtain ⟨-, hle⟩ := Option.filter_eq_some_iff.mp hn
  simpa using hle

/-- A location that is found at a position in range has its numbers in range. -/
theorem Matcher.fits_of_matchInSequence {m : Matcher} {lines : List String} {index : Nat}
    {cwd : Option String} {position : Nat} {l : Location}
    (h : m.matchInSequence lines index cwd position = some l) (hp : position ≤ Text.largest64) :
    l.Fits := by
  obtain ⟨line, g, capture, -, -, -, hcapture, rfl⟩ := m.exists_of_matchInSequence h
  have htaken := Grammar.takenFrom_of_captures hcapture
  exact ⟨htaken.line.le, fun n hn => (htaken.column n hn).le, hp⟩

namespace Engine

/-! ## Reports -/

variable (e : Engine) {lines : List String} (cwd : Option String) (stream : Option StreamId)

/-- The locations in a buffer have their numbers in range if the buffer does. -/
theorem fits_of_mem_scan (hlines : lines.length ≤ Text.largest64) {l : Location}
    (hl : l ∈ (e.scan lines cwd stream).2) : l.Fits := by
  cases henabled : e.config.enabled with
  | false =>
    rw [e.scan_of_disabled cwd henabled] at hl
    exact absurd hl List.not_mem_nil
  | true =>
    rw [e.scan_snd cwd henabled] at hl
    obtain ⟨i, hi⟩ := e.matcher.mem_scanFrom.mp hl
    have hindex := (e.matcher.eq_some_of_matchInSequence hi).1
    rw [List.length_map] at hindex
    exact Matcher.fits_of_matchInSequence hi (by omega)

/-- **Reports of scans.** What is reported of a buffer is read back from JSON, whatever the engine
and the buffer are, unless the buffer or the duration is longer than a number can tell. -/
theorem scanReport_is_read_back {durationMs : Nat} (hlines : lines.length ≤ Text.largest64)
    (hduration : durationMs ≤ Text.largest64) (timestamp : String) :
    let r := (e.scanReport lines cwd stream durationMs timestamp).2
    Report.ofJson? r.compactJson = some r ∧
      ∀ color, Report.ofJson? (r.render color .json) = some r := by
  intro r
  have hle : r.found.length ≤ Text.largest64 :=
    Nat.le_trans (e.length_scan_le lines cwd stream) hlines
  have hsummary : r.stats.Summarizes lines.length r.found :=
    Stats.summarizes_ofLocations lines.length r.found
  have hfiles : r.stats.distinctFiles ≤ Text.largest64 := by
    rw [hsummary.distinctFiles_eq]
    refine Nat.le_trans (List.toFinset_card_le _) ?_
    rwa [List.length_map]
  have hcounts : ∀ x ∈ r.stats.byGrammar, x.2 ≤ Text.largest64 := by
    intro x hx
    have hcount := hsummary.tallies.le_length hx
    rw [List.length_map] at hcount
    exact Nat.le_trans hcount hle
  have hstats : r.stats.Fits := ⟨hlines, hle, hfiles, hcounts, hsummary.tallies.rising⟩
  have hfits : r.Fits := ⟨fun l hl => e.fits_of_mem_scan cwd stream hlines hl, hstats, hduration⟩
  exact ⟨r.ofJson?_compactJson hfits, r.ofJson?_render hfits⟩

end Engine

end TraceScan
