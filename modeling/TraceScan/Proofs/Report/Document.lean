import TraceScan.Proofs.Config.Document
import TraceScan.Report.Render

/-!
# Reports as documents

A report, the numbers of which are in range, is read from each document that describes it, and so
from the JSON that it is written as, in one line or indented. Together with what holds of
configurations this is `json_is_read_back`.
-/

namespace TraceScan

open Document (Gives)

/-! ## Locations -/

/-- Whether the numbers of a location are in range. -/
structure Location.Fits (l : Location) : Prop where
  line : l.line ≤ Text.largest32
  column : ∀ n ∈ l.column, n ≤ Text.largest32
  position : l.position ≤ Text.largest64

/-- Whether the fields of a table describe a location. -/
structure Location.DescribedBy (l : Location) (fields : List (String × Document)) : Prop where
  grammar : fields.lookup "parser" = some (.text l.grammar)
  rawPath : fields.lookup "raw_path" = some (.text l.rawPath)
  path : fields.lookup "resolved_path" = some (.text l.path)
  line : fields.lookup "line" = some (.nat l.line)
  column : Gives .nat l.column (fields.lookup "column")
  context : Gives .text l.context (fields.lookup "context")
  position : fields.lookup "position" = some (.nat l.position)
  text : fields.lookup "raw_line" = some (.text l.text)

/-- A location is read from each document that describes it. -/
theorem Location.ofDocument?_eq_some {l : Location} (hfits : l.Fits) {d : Document}
    (hd : d.HasFields l.DescribedBy) : Location.ofDocument? d = some l := by
  obtain ⟨fields, known, h, hknown, hlookup⟩ := hd.exists_toFields? true
    ["parser", "raw_path", "resolved_path", "line", "column", "context", "position", "raw_line"]
  have htext : ∀ {name s}, known.lookup name = some (.text s) →
      Document.required? known name Document.toText? = some s :=
    fun hname => Document.required?_eq_some hname rfl
  have hgrammar := htext ((hlookup _ (by decide)).trans h.grammar)
  have hrawPath := htext ((hlookup _ (by decide)).trans h.rawPath)
  have hpath := htext ((hlookup _ (by decide)).trans h.path)
  have hline : Document.required? known "line" (Document.toNatUpTo? Text.largest32) =
      some l.line :=
    Document.required?_eq_some ((hlookup _ (by decide)).trans h.line)
      (Document.toNatUpTo?_nat hfits.line)
  have hcolumn : Document.field? known "column"
      (Document.toOption? (Document.toNatUpTo? Text.largest32)) none = some l.column :=
    h.column.field?_eq (hlookup _ (by decide)) fun n hn =>
      ⟨rfl, Document.toNatUpTo?_nat (hfits.column n hn)⟩
  have hcontext : Document.field? known "context" (Document.toOption? Document.toText?) none =
      some l.context :=
    h.context.field?_eq (hlookup _ (by decide)) fun _ _ => ⟨rfl, rfl⟩
  have hposition : Document.required? known "position" Document.toWord? = some l.position :=
    Document.required?_eq_some ((hlookup _ (by decide)).trans h.position)
      (Document.toWord?_nat hfits.position)
  have hraw : Document.field? known "raw_line" Document.toText? "" = some l.text :=
    Document.field?_eq_some ((hlookup _ (by decide)).trans h.text) rfl
  simp only [Location.ofDocument?, hknown, hgrammar, hrawPath, hpath, hline, hcolumn, hcontext,
    hposition, hraw, Option.bind_eq_bind, Option.bind_some, Option.pure_def]

/-- A location is described by the document that it is written as. -/
theorem Location.hasFields_toDocument (l : Location) :
    l.toDocument.HasFields l.DescribedBy := by
  obtain ⟨grammar, rawPath, path, line, column, context, position, text⟩ := l
  refine ⟨_, rfl, ?_⟩
  cases column <;> cases context <;>
    exact ⟨by simp [Document.fieldIf], rfl, rfl, rfl, rfl, .inl rfl, .inl rfl, rfl, rfl⟩

/-! ## Statistics -/

/-- Whether the numbers of some statistics are in range, with each grammar counted once and in the
order of names. -/
structure Stats.Fits (s : Stats) : Prop where
  totalLines : s.totalLines ≤ Text.largest64
  totalMatches : s.totalMatches ≤ Text.largest64
  distinctFiles : s.distinctFiles ≤ Text.largest64
  counts : ∀ x ∈ s.byGrammar, x.2 ≤ Text.largest64
  rising : s.byGrammar.Pairwise fun a b => a.1 < b.1

/-- Whether the fields of a table describe statistics. -/
structure Stats.DescribedBy (s : Stats) (fields : List (String × Document)) : Prop where
  totalLines : fields.lookup "total_lines" = some (.nat s.totalLines)
  totalMatches : fields.lookup "total_matches" = some (.nat s.totalMatches)
  distinctFiles : fields.lookup "distinct_files" = some (.nat s.distinctFiles)
  byGrammar : fields.lookup "by_parser" =
    some (.table (s.byGrammar.map fun (name, count) => (name, .nat count)))

/-- A count goes behind those of smaller names. -/
theorem setCount_of_lt {counts : List (String × Nat)} {name : String}
    (h : ∀ x ∈ counts, x.1 < name) (count : Nat) :
    setCount name count counts = counts ++ [(name, count)] := by
  induction counts with
  | nil => rfl
  | cons x counts ih =>
    obtain ⟨hx, hrest⟩ := List.forall_mem_cons.mp h
    have hne : name ≠ x.1 := by
      rintro rfl
      exact String.lt_irrefl _ hx
    rw [setCount, if_neg hne, if_neg (String.lt_asymm hx), ih hrest]
    rfl

/-- Counts in the order of names are read as they are. -/
theorem countsOfDocument?_map {counts : List (String × Nat)}
    (hcounts : ∀ x ∈ counts, x.2 ≤ Text.largest64)
    (hrising : counts.Pairwise fun a b => a.1 < b.1) :
    countsOfDocument? (.table (counts.map fun (name, count) => (name, .nat count))) =
      some counts := by
  -- on the counts, behind those that were read before them
  have hfold : ∀ earlier : List (String × Nat), (∀ x ∈ counts, ∀ y ∈ earlier, y.1 < x.1) →
      (counts.map fun (name, count) => (name, Document.nat count)).foldlM
        (fun counts f => do pure (setCount f.1 (← f.2.toWord?) counts)) earlier =
          some (earlier ++ counts) := by
    induction counts with
    | nil =>
      intro earlier _
      rw [List.append_nil]
      rfl
    | cons x counts ih =>
      intro earlier hearlier
      obtain ⟨hx, hrest⟩ := List.forall_mem_cons.mp hcounts
      obtain ⟨hhead, htail⟩ := List.pairwise_cons.mp hrising
      obtain ⟨hlast, hbefore⟩ := List.forall_mem_cons.mp hearlier
      have hnext : ∀ z ∈ counts, ∀ y ∈ earlier ++ [x], y.1 < z.1 := by
        intro z hz y hy
        rcases List.mem_append.mp hy with hy | hy
        · exact hbefore z hz y hy
        · obtain rfl := List.mem_singleton.mp hy
          exact hhead z hz
      rw [List.map_cons, List.foldlM_cons]
      simp only [Document.toWord?_nat hx, Option.bind_eq_bind, Option.bind_some, Option.pure_def]
      rw [setCount_of_lt hlast]
      have hih := ih hrest htail (earlier ++ [x]) hnext
      rw [List.append_assoc, List.singleton_append] at hih
      exact hih
  exact hfold [] fun _ _ _ hy => absurd hy List.not_mem_nil

/-- Statistics are read from each document that describes them. -/
theorem Stats.ofDocument?_eq_some {s : Stats} (hfits : s.Fits) {d : Document}
    (hd : d.HasFields s.DescribedBy) : Stats.ofDocument? d = some s := by
  obtain ⟨fields, known, h, hknown, hlookup⟩ := hd.exists_toFields? true
    ["total_lines", "total_matches", "distinct_files", "by_parser"]
  have hword : ∀ {name n}, n ≤ Text.largest64 → known.lookup name = some (.nat n) →
      Document.required? known name Document.toWord? = some n :=
    fun hn hname => Document.required?_eq_some hname (Document.toWord?_nat hn)
  have hlines := hword hfits.totalLines ((hlookup _ (by decide)).trans h.totalLines)
  have hmatches := hword hfits.totalMatches ((hlookup _ (by decide)).trans h.totalMatches)
  have hfiles := hword hfits.distinctFiles ((hlookup _ (by decide)).trans h.distinctFiles)
  have hcounts : Document.required? known "by_parser" countsOfDocument? = some s.byGrammar :=
    Document.required?_eq_some ((hlookup _ (by decide)).trans h.byGrammar)
      (countsOfDocument?_map hfits.counts hfits.rising)
  simp only [Stats.ofDocument?, hknown, hlines, hmatches, hfiles, hcounts, Option.bind_eq_bind,
    Option.bind_some, Option.pure_def]

/-- Statistics are described by the document that they are written as. -/
theorem Stats.hasFields_toDocument (s : Stats) : s.toDocument.HasFields s.DescribedBy :=
  ⟨_, rfl, by simp, rfl, rfl, rfl, rfl⟩

/-! ## Metadata -/

/-- Whether the fields of a table describe metadata. -/
structure Metadata.DescribedBy (m : Metadata) (fields : List (String × Document)) : Prop where
  durationMs : fields.lookup "scan_duration_ms" = some (.nat m.durationMs)
  timestamp : fields.lookup "timestamp" = some (.text m.timestamp)
  toolVersion : fields.lookup "tool_version" = some (.text m.toolVersion)

/-- Metadata is read from each document that describes it. -/
theorem Metadata.ofDocument?_eq_some {m : Metadata} (hfits : m.durationMs ≤ Text.largest64)
    {d : Document} (hd : d.HasFields m.DescribedBy) : Metadata.ofDocument? d = some m := by
  obtain ⟨fields, known, h, hknown, hlookup⟩ := hd.exists_toFields? true
    ["scan_duration_ms", "timestamp", "tool_version"]
  have hduration : Document.required? known "scan_duration_ms" Document.toWord? =
      some m.durationMs :=
    Document.required?_eq_some ((hlookup _ (by decide)).trans h.durationMs)
      (Document.toWord?_nat hfits)
  have htimestamp : Document.required? known "timestamp" Document.toText? = some m.timestamp :=
    Document.required?_eq_some ((hlookup _ (by decide)).trans h.timestamp) rfl
  have hversion : Document.required? known "tool_version" Document.toText? = some m.toolVersion :=
    Document.required?_eq_some ((hlookup _ (by decide)).trans h.toolVersion) rfl
  simp only [Metadata.ofDocument?, hknown, hduration, htimestamp, hversion, Option.bind_eq_bind,
    Option.bind_some, Option.pure_def]

/-- Metadata is described by the document that it is written as. -/
theorem Metadata.hasFields_toDocument (m : Metadata) : m.toDocument.HasFields m.DescribedBy :=
  ⟨_, rfl, by simp, rfl, rfl, rfl⟩

/-! ## Reports -/

/-- Whether the numbers of a report are in range. -/
structure Report.Fits (r : Report) : Prop where
  found : ∀ l ∈ r.found, l.Fits
  stats : r.stats.Fits
  metadata : r.metadata.durationMs ≤ Text.largest64

/-- Whether the fields of a table describe a report. -/
structure Report.DescribedBy (r : Report) (fields : List (String × Document)) : Prop where
  cwd : Gives .text r.cwd (fields.lookup "cwd")
  found : ∃ items, fields.lookup "matches" = some (.list items) ∧
    List.Forall₂ (fun l item => item.HasFields l.DescribedBy) r.found items
  stats : ∃ d, fields.lookup "stats" = some d ∧ d.HasFields r.stats.DescribedBy
  metadata : ∃ d, fields.lookup "metadata" = some d ∧ d.HasFields r.metadata.DescribedBy

/-- A report is read from each document that describes it. -/
theorem Report.ofDocument?_eq_some {r : Report} (hfits : r.Fits) {d : Document}
    (hd : d.HasFields r.DescribedBy) : Report.ofDocument? d = some r := by
  obtain ⟨fields, known, h, hknown, hlookup⟩ := hd.exists_toFields? true
    ["cwd", "matches", "stats", "metadata"]
  have hcwd : Document.field? known "cwd" (Document.toOption? Document.toText?) none =
      some r.cwd :=
    h.cwd.field?_eq (hlookup _ (by decide)) fun _ _ => ⟨rfl, rfl⟩
  have hfound : Document.required? known "matches"
      (Document.toListOf? Location.ofDocument?) = some r.found := by
    obtain ⟨items, hitems, hdescribed⟩ := h.found
    refine Document.required?_eq_some ((hlookup _ (by decide)).trans hitems) ?_
    refine Document.toListOf?_list hdescribed fun l hl item hitem => ?_
    exact Location.ofDocument?_eq_some (hfits.found l hl) hitem
  have hstats : Document.required? known "stats" Stats.ofDocument? = some r.stats := by
    obtain ⟨item, hitem, hdescribed⟩ := h.stats
    exact Document.required?_eq_some ((hlookup _ (by decide)).trans hitem)
      (Stats.ofDocument?_eq_some hfits.stats hdescribed)
  have hmetadata : Document.required? known "metadata" Metadata.ofDocument? =
      some r.metadata := by
    obtain ⟨item, hitem, hdescribed⟩ := h.metadata
    exact Document.required?_eq_some ((hlookup _ (by decide)).trans hitem)
      (Metadata.ofDocument?_eq_some hfits.metadata hdescribed)
  simp only [Report.ofDocument?, hknown, hcwd, hfound, hstats, hmetadata, Option.bind_eq_bind,
    Option.bind_some, Option.pure_def]

/-- A report is described by the document that it is written as. -/
theorem Report.hasFields_toDocument (r : Report) : r.toDocument.HasFields r.DescribedBy := by
  obtain ⟨cwd, found, stats, metadata⟩ := r
  have hfound : List.Forall₂ (fun l item => item.HasFields l.DescribedBy) found
      (found.map Location.toDocument) :=
    Document.forall₂_map fun l _ => l.hasFields_toDocument
  refine ⟨_, rfl, ?_⟩
  cases cwd <;>
    exact ⟨by simp [Document.fieldIf], .inl rfl, ⟨_, rfl, hfound⟩,
      ⟨_, rfl, stats.hasFields_toDocument⟩, ⟨_, rfl, metadata.hasFields_toDocument⟩⟩

/-- Statistics are written without unquoted scalars. -/
theorem Stats.isValue_toDocument (s : Stats) : s.toDocument.IsValue := by
  have hcounts : ∀ f ∈ s.byGrammar.map fun (name, count) => (name, Document.nat count),
      f.2.IsValue := by
    intro f hf
    obtain ⟨x, -, rfl⟩ := List.mem_map.mp hf
    exact Document.isValue_nat x.2
  refine .table ?_
  simp only [List.forall_mem_cons, List.not_mem_nil, false_imp_iff, implies_true, and_true,
    Document.isValue_nat, true_and]
  exact .table hcounts

/-- A report is written without unquoted scalars. -/
theorem Report.isValue_toDocument (r : Report) : r.toDocument.IsValue := by
  simp [toDocument, Location.toDocument, Metadata.toDocument, Stats.isValue_toDocument]

/-! ## JSON -/

/-- The report that a text in JSON describes. -/
def Report.ofJson? (text : String) : Option Report :=
  (Json.read? text).bind Report.ofDocument?

/-- **Reading.** A report is read from each text in JSON for a document that describes it. -/
theorem Report.ofJson?_eq_some {r : Report} (hfits : r.Fits) {d : Document}
    (hd : d.HasFields r.DescribedBy) {text : String} (htext : Json.read? text = some d) :
    Report.ofJson? text = some r := by
  rw [Report.ofJson?, htext, Option.bind_some, Report.ofDocument?_eq_some hfits hd]

/-- A report is read back from the line of JSON that it is written as. -/
theorem Report.ofJson?_compactJson (r : Report) (hfits : r.Fits) :
    Report.ofJson? r.compactJson = some r :=
  ofJson?_eq_some hfits r.hasFields_toDocument (Json.read?_render r.isValue_toDocument)

/-- A report is read back from the indented JSON that it is written as. -/
theorem Report.ofJson?_render (r : Report) (hfits : r.Fits) (color : Bool) :
    Report.ofJson? (r.render color .json) = some r :=
  ofJson?_eq_some hfits r.hasFields_toDocument (Json.read?_renderPretty r.isValue_toDocument)

/-- **Round trip.** A report, the numbers of which are in range, is read back from the JSON that it
is written as, in one line, which holds no line break, or indented. So is a configuration without
hooks, and it is read from any other text in JSON that describes it, such as one that leaves out
absent groups of a rule or writes them as null. -/
theorem json_is_read_back :
    (∀ r : Report, r.Fits →
      Report.ofJson? r.compactJson = some r ∧ '\n' ∉ r.compactJson.toList ∧
        ∀ color, Report.ofJson? (r.render color .json) = some r) ∧
    ∀ c : Config, c.Fits →
      Config.read .json (Json.render c.toDocument) = .ok c ∧
        Config.read .json (Json.renderPretty c.toDocument) = .ok c ∧
        ∀ d s gap, d.HasFields c.DescribedBy → Json.Spells (.value d) s → Json.Blank gap →
          Config.read .json (String.ofList (s ++ gap)) = .ok c := by
  constructor
  · intro r hfits
    refine ⟨r.ofJson?_compactJson hfits, ?_, r.ofJson?_render hfits⟩
    rw [Report.compactJson, Json.render, String.toList_ofList]
    exact Json.newline_not_mem_compact r.isValue_toDocument
  · intro c hfits
    have hvalue := c.isValue_toDocument
    have hfields := c.hasFields_toDocument
    exact ⟨Config.read_json hfits hfields (Json.read?_render hvalue),
      Config.read_json hfits hfields (Json.read?_renderPretty hvalue),
      fun d s gap hd hs hgap => Config.read_json hfits hd (Json.read?_of_spells hs hgap)⟩

/-- A report with quotes, a line break and a control character in its texts is read back. A
configuration is read back as well, and from a text that leaves out a group of a rule, writes
another one as null and ends with a line break. -/
theorem quoted_report_is_read_back :
    let l : Location := {
      grammar := "rust", rawPath := "src/\"a\".rs", path := "C:\\src\\\"a\".rs", line := 4294967295
      context := some "fn\n\x1b[1m", position := 7, text := "\tat é" }
    let r : Report := {
      found := [l], stats := ⟨7, 1, 1, [("c", 0), ("rust", 1)]⟩, metadata := ⟨0, "T", toolVersion⟩ }
    let rule : Rule := { pattern := "(\\w+) (\\d+)", lineGroup := some 2 }
    let c : Config := { customGrammars := [{ name := "words", rules := [rule], priority := -5 }] }
    let item : Document := .table [
      ("line_group", .nat 2), ("context_group", .null), ("pattern", .text rule.pattern)]
    let grammar : Document := .table [
      ("name", .text "words"), ("patterns", .list [item]), ("priority", .int (-5)),
      ("is_custom", .bool false)]
    let d : Document := .table [
      ("enabled", .bool true), ("buffer_size", .nat 1000), ("languages", .list []),
      ("custom_parsers", .list [grammar]),
      ("parser_order", .list [.text "custom", .text "builtin"]), ("context_window", .nat 3),
      ("wrap_navigation", .bool true), ("nearest_range", .nat 10)]
    Report.ofJson? r.compactJson = some r ∧ Report.ofJson? (r.render true .json) = some r ∧
      Config.read .json (Json.render c.toDocument) = .ok c ∧
      Config.read .json (Json.renderPretty d ++ "\n") = .ok c := by
  intro l r rule c item grammar d
  have hr : r.Fits := by
    refine ⟨?_, ⟨by decide, by decide, by decide, by decide,
      List.pairwise_pair.mpr (by decide)⟩, by decide⟩
    rintro l' hl'
    obtain rfl := List.mem_singleton.mp hl'
    exact ⟨by decide, by rintro n ⟨⟩, by decide⟩
  have hc : c.Fits := by
    refine ⟨by decide, ?_, by decide, by decide⟩
    rintro g hg
    obtain rfl := List.mem_singleton.mp hg
    refine ⟨?_, by decide, rfl, rfl⟩
    rintro rule' hrule
    obtain rfl := List.mem_singleton.mp hrule
    exact ⟨by rintro n ⟨⟩, by rintro n ⟨⟩; decide, by rintro n ⟨⟩, by rintro n ⟨⟩⟩
  have hitem : item.HasFields rule.DescribedBy :=
    ⟨_, rfl, by simp, rfl, .inl rfl, .inl rfl, .inl rfl, .inr rfl⟩
  have hd : d.HasFields c.DescribedBy :=
    ⟨_, rfl, by simp, rfl, rfl, rfl, ⟨_, rfl, .cons ⟨_, rfl, by simp, rfl, .inl rfl,
      ⟨_, rfl, .cons hitem .nil⟩, rfl, rfl⟩ .nil⟩, rfl, rfl, rfl, rfl⟩
  have hvalue : d.IsValue := by simp [d, grammar, item]
  have hblank : Json.Blank ['\n'] := by simp [Json.Blank, Json.isSpace]
  have htext : Json.renderPretty d ++ "\n" = String.ofList (Json.prettyAt 0 d ++ ['\n']) := by
    rw [String.ofList_append]
    rfl
  obtain ⟨hcompact, -, hpretty⟩ := json_is_read_back.1 r hr
  obtain ⟨hconfig, -, hother⟩ := json_is_read_back.2 c hc
  refine ⟨hcompact, hpretty true, hconfig, ?_⟩
  rw [htext]
  exact hother d _ _ hd (Json.spells_pretty hvalue 0) hblank

end TraceScan
