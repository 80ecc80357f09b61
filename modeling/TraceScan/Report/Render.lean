import TraceScan.Document.Json
import TraceScan.Document.Yaml.Writer
import TraceScan.Report.Basic

/-!
# Rendering reports

Reports as JSON, as YAML, as a coloured listing and as a plain summary.
-/

namespace TraceScan

/-! ## Formats -/

/-- The formats of reports. -/
inductive Format where
  | json
  | yaml
  | listing
  | summary
  deriving DecidableEq, Repr

/-- There is no format of that name. -/
structure UnknownFormat where
  name : String
  deriving DecidableEq, Repr

/-- The text of the error. -/
def UnknownFormat.message (e : UnknownFormat) : String :=
  "Unknown output format: " ++ e.name

/-- The format of a name, in letters of either case. -/
def Format.ofName (name : String) : Except UnknownFormat Format :=
  match name.map Char.toLower with
  | "json" => .ok .json
  | "yaml" | "yml" => .ok .yaml
  | "ansi" => .ok .listing
  | "summary" | "text" => .ok .summary
  | other => .error ⟨other⟩

/-! ## Colours -/

/-- The ways in which parts of a listing stand out. -/
inductive Style where
  | dimmed
  | bold
  | banner
  | path
  | number
  | grammar
  | context
  deriving DecidableEq, Repr

/-- The terminal codes of a style. -/
def Style.codes : Style → String
  | dimmed => "2"
  | bold => "1"
  | banner => "1;44"
  | path => "96"
  | number => "33"
  | grammar => "35"
  | context => "32"

/-- A text in a style, if colours are wanted. -/
def Style.paint (style : Style) (color : Bool) (text : String) : String :=
  if color then "\x1b[" ++ style.codes ++ "m" ++ text ++ "\x1b[0m" else text

/-! ## Listings -/

/-- A location as one line of a listing. -/
def Location.listing (color : Bool) (l : Location) : String :=
  Style.dimmed.paint color (Text.padLeft 5 (toString l.position)) ++ " " ++
    Style.path.paint color l.path ++ ":" ++ Style.number.paint color (toString l.line) ++
    (match l.column with
      | some column => ":" ++ Style.number.paint color (toString column)
      | none => "") ++
    " " ++ Style.grammar.paint color ("[" ++ l.grammar ++ "]") ++
    (match l.context with
      | some context => " " ++ Style.context.paint color context
      | none => "")

/-- A report as a listing. -/
def Report.listing (color : Bool) (r : Report) : String :=
  let bold := Style.bold.paint color
  let dimmed := Style.dimmed.paint color
  "\n" ++ Style.banner.paint color "  Stack Trace Locations  " ++ "\n\n" ++
    (match r.cwd with
      | some cwd => bold "Cwd:" ++ " " ++ cwd ++ "\n"
      | none => "") ++
    bold "Lines:" ++ " " ++ toString r.stats.totalLines ++ "  " ++
    bold "Locations:" ++ " " ++ toString r.stats.totalMatches ++ "  " ++
    bold "Files:" ++ " " ++ toString r.stats.distinctFiles ++ "\n\n" ++
    (if r.found.isEmpty then dimmed "No stack trace locations" ++ "\n" else "") ++
    String.join (r.found.map fun l => l.listing color ++ "\n") ++
    "\n" ++ dimmed ("Scan completed in " ++ toString r.metadata.durationMs ++ "ms") ++ "\n"

/-! ## Summaries -/

/-- A report as a summary. -/
def Report.summary (r : Report) : String :=
  "Stack Trace Scan Results\n========================\n\n" ++
    (match r.cwd with
      | some cwd => "Working Directory: " ++ cwd ++ "\n"
      | none => "") ++
    "Total Lines: " ++ toString r.stats.totalLines ++ "\n" ++
    "Locations: " ++ toString r.stats.totalMatches ++ "\n" ++
    "Distinct Files: " ++ toString r.stats.distinctFiles ++ "\n" ++
    (if r.stats.byGrammar.isEmpty then ""
      else "\nParser Breakdown:\n" ++ String.join (r.stats.byGrammar.map fun (name, count) =>
        "  " ++ name ++ ": " ++ toString count ++ "\n")) ++
    (if r.found.isEmpty then ""
      else "\nLocations:\n" ++ String.join (r.found.map fun l =>
        "  " ++ Text.padLeft 5 (toString l.position) ++ "  " ++ l.label ++ "\n")) ++
    "\nScan Duration: " ++ toString r.metadata.durationMs ++ "ms\n"

/-! ## All formats -/

/-- A report as JSON in one line. -/
def Report.compactJson (r : Report) : String :=
  Json.render r.toDocument

/-- A report in a format. -/
def Report.render (color : Bool) (r : Report) : Format → String
  | .json => Json.renderPretty r.toDocument
  | .yaml => Yaml.render r.toDocument
  | .listing => r.listing color
  | .summary => r.summary

/-- A location in a format. -/
def Location.render (color : Bool) (l : Location) : Format → String
  | .json => Json.renderPretty l.toDocument
  | .yaml => Yaml.render l.toDocument
  | .listing => l.listing color
  | .summary => l.label

end TraceScan
