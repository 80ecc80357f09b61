import TraceScan.CommandLine.Invocation
import TraceScan.Config.File

/-!
# Running commands

What a command answers in given surroundings, how the answer is written, and the outcome of a whole
command line. Nothing here reads or writes files; the surroundings tell what reading yields. The
scans are those of a build whose sums wrap, as the program is built for release.
-/

namespace TraceScan.CommandLine

/-! ## Surroundings -/

/-- What a command finds around it. -/
structure Surroundings where
  /-- The home directory, if there is one. -/
  home : Option String
  /-- The working directory, if it can be told. -/
  directory : Option String
  /-- What reading the file at a path yields. -/
  file : String → Except FileError String
  /-- What reading the standard input yields. -/
  input : Except FileError String

/-! ## Failures -/

/-- Why a command fails. -/
inductive Failure where
  | config (path : String) (cause : ConfigError)
  | noGrammars
  | file (path : String) (cause : FileError)
  | input (cause : FileError)
  | noLocation
  | navigation (cause : NavigationError)
  | output (path : String)
  deriving DecidableEq, Repr

/-- The text of a failure. -/
def Failure.message : Failure → String
  | config path _ => "Failed to load config: " ++ path
  | noGrammars => "No grammars loaded; check --language and the config file"
  | file path _ => "Failed to read input: " ++ path
  | input _ => "Failed to read stdin"
  | noLocation => "No stack trace location in line"
  | navigation cause => cause.message
  | output _ => "Failed to write output file"

/-! ## Lines -/

/-- The line without one carriage return at its end. -/
def dropReturn (line : List Char) : List Char :=
  if line.getLast? == some '\r' then line.dropLast else line

/-- The lines of a text, `line` being read backwards. A carriage return before a line break belongs
to the break, and behind the last break no empty line follows. -/
def linesAux (line : List Char) : List Char → List (List Char)
  | [] => if line.isEmpty then [] else [line.reverse]
  | c :: rest =>
    if c == '\n' then dropReturn line.reverse :: linesAux [] rest
    else linesAux (c :: line) rest

/-- The lines of a text. -/
def linesOf (text : String) : List String :=
  (linesAux [] text.toList).map String.ofList

/-! ## Answers -/

/-- What a command answers. -/
inductive Answer where
  | report (r : Report)
  | location (l : Location)
  | grammars (gs : List Grammar)

/-- The stream that the lines of a command belong to. -/
def inputStream : StreamId := 1

/-- The configuration that a command works with. -/
def configFor (s : Surroundings) (o : Options) : Except Failure Config := do
  let config ← match o.config with
    | none => pure {}
    | some path =>
      match Config.ofFile path (s.file path) with
      | .ok config => pure config
      | .error cause => throw (.config path cause)
  let config := if o.languages.isEmpty then config else { config with languages := o.languages }
  pure (if o.noWrap then { config with wrapNavigation := false } else config)

/-- The engine that a command works with, which has at least one grammar. -/
def engineFor (s : Surroundings) (o : Options) : Except Failure Engine := do
  let (engine, _) := Engine.ofConfig s.home (← configFor s o)
  if engine.registry.grammars.isEmpty then throw .noGrammars
  pure engine

/-- The lines in a file, or in the standard input if the file is called `-`. -/
def linesFor (s : Surroundings) (file : String) : Except Failure (List String) :=
  if file == "-" then
    match s.input with
    | .ok text => .ok (linesOf text)
    | .error cause => .error (.input cause)
  else
    match s.file file with
    | .ok text => .ok (linesOf text)
    | .error cause => .error (.file file cause)

/-- The file that a command reads lines from, if it reads any. -/
def Command.file? : Command → Option String
  | scan file | next file _ | previous file _ => some file
  | matchLine _ | grammars => none

/-- The location that a step of navigation leads to. -/
def navigated : Except NavigationError Location → Except Failure Answer
  | .ok l => .ok (.location l)
  | .error cause => .error (.navigation cause)

/-- What a command answers. -/
def answer (s : Surroundings) (i : Invocation) : Except Failure Answer := do
  let engine ← engineFor s i.options
  let cwd := i.options.cwd.or s.directory
  match i.command with
  | .scan file =>
    let lines ← linesFor s file
    pure (.report (engine.scanReport lines cwd (some inputStream) 0 "").2)
  | .matchLine line =>
    match engine.matchLine line cwd with
    | some l => pure (.location l)
    | none => throw .noLocation
  | .grammars => pure (.grammars engine.registry.ordered)
  | .next file cursor =>
    let lines ← linesFor s file
    navigated ((engine.scan lines cwd (some inputStream)).1.next inputStream cursor)
  | .previous file cursor =>
    let lines ← linesFor s file
    navigated ((engine.scan lines cwd (some inputStream)).1.previous inputStream cursor)

/-- The answer with the duration and the time of a scan. -/
def Answer.stamped (durationMs : Nat) (timestamp : String) : Answer → Answer
  | report r => .report { r with metadata := ⟨durationMs, timestamp, toolVersion⟩ }
  | other => other

/-! ## Writing answers -/

/-- A grammar as one line of a listing. -/
def grammarListing (color : Bool) (g : Grammar) : String :=
  Style.bold.paint color (Text.padRight 12 g.name) ++ " " ++
    Text.padRight 8 g.grammarClass.label ++ " priority " ++
    Text.padLeft 3 (toString g.priority) ++ "  " ++ toString g.definition.rules.length ++
    " patterns\n"

/-- An answer in a format. -/
def Answer.render (color : Bool) (format : Format) : Answer → String
  | report r => r.render color format
  | location l => l.render color format
  | grammars gs =>
    let document := Document.list (gs.map fun g => g.definition.toDocument)
    match format with
    | .json => Json.renderPretty document
    | .yaml => Yaml.render document
    | .listing => String.join (gs.map (grammarListing color))
    | .summary => String.join (gs.map (grammarListing color))

/-- What a scan tells beside its report. -/
def Answer.notice? : Answer → Option String
  | report r =>
    some ("Scanned " ++ toString r.stats.totalLines ++ " lines in " ++
      toString r.metadata.durationMs ++ "ms, " ++ toString r.stats.totalMatches ++ " locations")
  | _ => none

/-! ## Outcomes -/

/-- What a command line leads to. -/
structure Outcome where
  /-- 0 for success, 1 for a failure and 2 for an error in the command line. -/
  status : Nat
  /-- The text for the standard output. -/
  output : String := ""
  /-- The text of the failure. -/
  error : Option String := none
  /-- What is told beside the answer. -/
  notice : Option String := none
  /-- The file to write, and its text. -/
  written : Option (String × String) := none
  deriving DecidableEq, Repr

/-- The outcome of a failure. -/
def Outcome.ofFailure (failure : Failure) : Outcome :=
  { status := 1, error := some failure.message }

/-- The outcome of an answer, where `writable` tells which files can be written. -/
def Outcome.ofAnswer (writable : String → Bool) (color : Bool) (o : Options) (a : Answer) :
    Outcome :=
  let text := a.render (color && !o.noColor) o.format
  let notice := if o.verbose then a.notice? else none
  match o.output with
  | none => { status := 0, output := text ++ "\n", notice := notice }
  | some path =>
    if writable path then { status := 0, notice := notice, written := some (path, text) }
    else { Outcome.ofFailure (.output path) with notice := notice }

/-- The name of the program and its version. -/
def versionText : String :=
  "mta-stacklinks " ++ toolVersion ++ "\n"

/-- A short description of the command line. -/
def helpText : String :=
  "Usage: mta-stacklinks [OPTIONS] <COMMAND>\n\n" ++
  "Commands:\n" ++
  "  scan [FILE]   Report every location in a file or in the standard input\n" ++
  "  match <LINE>  Report the location in a line\n" ++
  "  parsers       List the grammars in matching order\n" ++
  "  next <FILE>   Report the location behind a cursor\n" ++
  "  prev <FILE>   Report the location before a cursor\n\n" ++
  "Options:\n" ++
  "  -c, --config <FILE>    Configuration file\n" ++
  "      --cwd <PATH>       Directory that relative paths start from\n" ++
  "  -l, --language <NAME>  Load this built-in grammar only; may be repeated\n" ++
  "  -f, --format <FORMAT>  json, yaml, ansi or summary\n" ++
  "  -o, --output <FILE>    Write to a file\n" ++
  "      --no-wrap          Stop at the first and last location\n" ++
  "      --no-color         Do not use colors\n" ++
  "  -v, --verbose          Tell how much was scanned\n" ++
  "      --cursor <LINE>    Where next and prev start\n" ++
  "  -h, --help             Print this text\n" ++
  "  -V, --version          Print the version\n"

/-- The outcome of a command line that asks for no command. -/
def Outcome.ofHalt : Halt → Outcome
  | .usage _ => { status := 2 }
  | .help => { status := 0, output := helpText }
  | .version => { status := 0, output := versionText }

/-- The outcome of a command line, with the given duration and time for a scan. -/
def run (s : Surroundings) (writable : String → Bool) (color : Bool) (durationMs : Nat)
    (timestamp : String) (words : List String) : Outcome :=
  match Invocation.ofWords words with
  | .error halt => .ofHalt halt
  | .ok i =>
    match answer s i with
    | .error failure => .ofFailure failure
    | .ok a => .ofAnswer writable color i.options (a.stamped durationMs timestamp)

end TraceScan.CommandLine
