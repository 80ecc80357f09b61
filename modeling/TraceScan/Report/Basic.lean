import TraceScan.Config.Document
import TraceScan.Engine

/-!
# Reports

The locations found in a buffer of output with their statistics, and reports as documents.
-/

namespace TraceScan

/-! ## Statistics -/

/-- How much was scanned and what was found. -/
structure Stats where
  totalLines : Nat
  totalMatches : Nat
  /-- How many different paths the locations have. -/
  distinctFiles : Nat
  /-- How many locations each grammar found, in the order of names. -/
  byGrammar : List (String × Nat)
  deriving DecidableEq, Repr

/-- The counts with one more of `name`. -/
def tallyOne (name : String) : List (String × Nat) → List (String × Nat)
  | [] => [(name, 1)]
  | (n, count) :: rest =>
    if name = n then (n, count + 1) :: rest
    else if name < n then (name, 1) :: (n, count) :: rest
    else (n, count) :: tallyOne name rest

/-- How often each name occurs, in the order of names. -/
def tally (names : List String) : List (String × Nat) :=
  names.foldl (fun counts name => tallyOne name counts) []

/-- The statistics of some locations. -/
def Stats.ofLocations (totalLines : Nat) (found : List Location) : Stats :=
  ⟨totalLines, found.length, (found.map Location.path).eraseDups.length,
    tally (found.map Location.grammar)⟩

/-! ## Reports -/

/-- The version of this program. -/
def toolVersion : String := "0.1.0"

/-- When and with what a scan was made. -/
structure Metadata where
  durationMs : Nat
  timestamp : String
  toolVersion : String
  deriving DecidableEq, Repr

/-- What a scan found. -/
structure Report where
  cwd : Option String := none
  found : List Location
  stats : Stats
  metadata : Metadata
  deriving DecidableEq, Repr

/-- The report on a buffer in which some locations were found. -/
def Report.ofScan (totalLines : Nat) (cwd : Option String) (found : List Location)
    (durationMs : Nat) (timestamp : String) : Report :=
  ⟨cwd, found, .ofLocations totalLines found, ⟨durationMs, timestamp, toolVersion⟩⟩

/-- Scans a buffer and reports what was found. -/
def Engine.scanReport (e : Engine) (lines : List String) (cwd : Option String)
    (stream : Option StreamId) (durationMs : Nat) (timestamp : String) : Engine × Report :=
  let (e, found) := e.scan lines cwd stream
  (e, .ofScan lines.length cwd found durationMs timestamp)

/-! ## Documents -/

/-- A location as a document. -/
def Location.toDocument (l : Location) : Document :=
  .tableOf [
    some ("parser", .text l.grammar),
    some ("raw_path", .text l.rawPath),
    some ("resolved_path", .text l.path),
    some ("line", .nat l.line),
    Document.fieldIf "column" .nat l.column,
    Document.fieldIf "context" .text l.context,
    some ("position", .nat l.position),
    some ("raw_line", .text l.text)]

/-- Statistics as a document. -/
def Stats.toDocument (s : Stats) : Document :=
  .table [
    ("total_lines", .nat s.totalLines),
    ("total_matches", .nat s.totalMatches),
    ("distinct_files", .nat s.distinctFiles),
    ("by_parser", .table (s.byGrammar.map fun (name, count) => (name, .nat count)))]

/-- Metadata as a document. -/
def Metadata.toDocument (m : Metadata) : Document :=
  .table [
    ("scan_duration_ms", .nat m.durationMs),
    ("timestamp", .text m.timestamp),
    ("tool_version", .text m.toolVersion)]

/-- A report as a document. -/
def Report.toDocument (r : Report) : Document :=
  .tableOf [
    Document.fieldIf "cwd" .text r.cwd,
    some ("matches", .list (r.found.map Location.toDocument)),
    some ("stats", r.stats.toDocument),
    some ("metadata", r.metadata.toDocument)]

/-- The location that a document describes. -/
def Location.ofDocument? (d : Document) : Option Location := do
  let fields ← d.toFields? true
    ["parser", "raw_path", "resolved_path", "line", "column", "context", "position", "raw_line"]
  let number := Document.toNatUpTo? Text.largest32
  pure {
    grammar := ← Document.required? fields "parser" Document.toText?
    rawPath := ← Document.required? fields "raw_path" Document.toText?
    path := ← Document.required? fields "resolved_path" Document.toText?
    line := ← Document.required? fields "line" number
    column := ← Document.field? fields "column" (Document.toOption? number) none
    context := ← Document.field? fields "context" (Document.toOption? Document.toText?) none
    position := ← Document.required? fields "position" Document.toWord?
    text := ← Document.field? fields "raw_line" Document.toText? "" }

/-- The counts with `count` under `name`, in place of an earlier one. -/
def setCount (name : String) (count : Nat) : List (String × Nat) → List (String × Nat)
  | [] => [(name, count)]
  | (n, c) :: rest =>
    if name = n then (n, count) :: rest
    else if name < n then (name, count) :: (n, c) :: rest
    else (n, c) :: setCount name count rest

/-- The counts that a document describes; of two under one name the later one holds. -/
def countsOfDocument? : Document → Option (List (String × Nat))
  | .table fields =>
    fields.foldlM (fun counts f => do pure (setCount f.1 (← f.2.toWord?) counts)) []
  | _ => none

/-- The statistics that a document describes. -/
def Stats.ofDocument? (d : Document) : Option Stats := do
  let fields ← d.toFields? true ["total_lines", "total_matches", "distinct_files", "by_parser"]
  pure {
    totalLines := ← Document.required? fields "total_lines" Document.toWord?
    totalMatches := ← Document.required? fields "total_matches" Document.toWord?
    distinctFiles := ← Document.required? fields "distinct_files" Document.toWord?
    byGrammar := ← Document.required? fields "by_parser" countsOfDocument? }

/-- The metadata that a document describes. -/
def Metadata.ofDocument? (d : Document) : Option Metadata := do
  let fields ← d.toFields? true ["scan_duration_ms", "timestamp", "tool_version"]
  pure {
    durationMs := ← Document.required? fields "scan_duration_ms" Document.toWord?
    timestamp := ← Document.required? fields "timestamp" Document.toText?
    toolVersion := ← Document.required? fields "tool_version" Document.toText? }

/-- The report that a document describes. -/
def Report.ofDocument? (d : Document) : Option Report := do
  let fields ← d.toFields? true ["cwd", "matches", "stats", "metadata"]
  pure {
    cwd := ← Document.field? fields "cwd" (Document.toOption? Document.toText?) none
    found :=
      ← Document.required? fields "matches" (Document.toListOf? Location.ofDocument?)
    stats := ← Document.required? fields "stats" Stats.ofDocument?
    metadata := ← Document.required? fields "metadata" Metadata.ofDocument? }

end TraceScan
