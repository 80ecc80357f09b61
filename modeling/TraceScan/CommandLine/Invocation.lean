import TraceScan.Report.Render

/-!
# Invocations

What the words of a command line ask for. Options may stand before the command and behind it, where
they take precedence; each may be given once in either place, but for the languages. A value stands
in the word behind its option or in the same word.
-/

namespace TraceScan.CommandLine

/-! ## Commands and options -/

/-- The commands. -/
inductive CommandName where
  | scan
  | matchLine
  | grammars
  | next
  | previous
  deriving DecidableEq, Repr

/-- The command that a word names. -/
def CommandName.ofWord? : String → Option CommandName
  | "scan" => some .scan
  | "match" => some .matchLine
  | "parsers" => some .grammars
  | "next" => some .next
  | "prev" => some .previous
  | _ => none

/-- How many arguments a command takes at most. -/
def CommandName.mostArguments : CommandName → Nat
  | grammars => 0
  | _ => 1

/-- The options. -/
inductive OptionName where
  | config
  | cwd
  | language
  | format
  | output
  | noWrap
  | noColor
  | verbose
  | cursor
  | help
  | version
  deriving DecidableEq, Repr

namespace OptionName

/-- The option with a long name. -/
def ofLong? : String → Option OptionName
  | "config" => some config
  | "cwd" => some cwd
  | "language" => some language
  | "format" => some format
  | "output" => some output
  | "no-wrap" => some noWrap
  | "no-color" => some noColor
  | "verbose" => some verbose
  | "cursor" => some cursor
  | "help" => some help
  | "version" => some version
  | _ => none

/-- The option with a name of one letter. -/
def ofLetter? : Char → Option OptionName
  | 'c' => some config
  | 'l' => some language
  | 'f' => some format
  | 'o' => some output
  | 'v' => some verbose
  | 'h' => some help
  | 'V' => some version
  | _ => none

/-- Whether an option comes with a value. -/
def takesValue : OptionName → Bool
  | config | cwd | language | format | output | cursor => true
  | noWrap | noColor | verbose | help | version => false

/-- Whether an option is known before the command (`none`) or behind it. The cursor belongs to
navigation, and the version to no command. -/
def isKnown (command : Option CommandName) : OptionName → Bool
  | cursor => command == some .next || command == some .previous
  | version => command == none
  | _ => true

end OptionName

/-- The format of a name, which stands as it is. -/
def formatOfWord? : String → Option Format
  | "json" => some .json
  | "yaml" => some .yaml
  | "ansi" => some .listing
  | "summary" => some .summary
  | _ => none

/-! ## Usage errors -/

/-- What is wrong with a command line. -/
inductive UsageError where
  | unknownOption (word : String)
  | repeatedOption (name : OptionName)
  | missingValue (name : OptionName)
  | unwantedValue (name : OptionName)
  | badValue (name : OptionName) (value : String)
  | extraArgument (word : String)
  | missingArgument
  | unknownCommand (word : String)
  | missingCommand
  deriving DecidableEq, Repr

/-- Why the reading of a command line ends before its last word. -/
inductive Halt where
  | usage (cause : UsageError)
  | help
  | version
  deriving DecidableEq, Repr

/-! ## Reading words -/

/-- The options and arguments in one part of a command line. -/
structure Given where
  options : List (OptionName × String) := []
  arguments : List String := []
  deriving DecidableEq, Repr

namespace Given

/-- The value of an option. -/
def value? (g : Given) (name : OptionName) : Option String :=
  g.options.lookup name

/-- Whether an option is there. -/
def has (g : Given) (name : OptionName) : Bool :=
  (g.value? name).isSome

/-- The languages, in the order in which they are given. -/
def languages (g : Given) : List String :=
  (g.options.filter (·.1 == .language)).map Prod.snd

end Given

/-- Whether a value suits an option. -/
def suits (value : String) : OptionName → Bool
  | .config => !value.isEmpty
  | .output => !value.isEmpty
  | .format => (formatOfWord? value).isSome
  | .cursor => (Text.numeral? Text.largest64 value.toList).isSome
  | _ => true

/-- The part with one more option. -/
def addOption (g : Given) (name : OptionName) (value : String) : Except Halt Given :=
  if name == .help then .error .help
  else if name == .version then .error .version
  else if name != .language && g.has name then .error (.usage (.repeatedOption name))
  else if suits value name then .ok { g with options := g.options ++ [(name, value)] }
  else .error (.usage (.badValue name value))

/-- The part with one more argument; before the command there are none. -/
def addArgument (command : Option CommandName) (g : Given) (word : String) : Except Halt Given :=
  let most := (command.map CommandName.mostArguments).getD 0
  if g.arguments.length < most then .ok { g with arguments := g.arguments ++ [word] }
  else .error (.usage (.extraArgument word))

/-- Whether a word cannot be the value of the option before it. -/
def looksLikeOption (word : String) : Bool :=
  word.startsWith "-" && word != "-"

/-- Reads a word with one or more letters behind a dash. The result names an option at the end of
the word whose value must be the next word. -/
def readLetters (command : Option CommandName) (word : String) (g : Given) :
    List Char → Except Halt (Given × Option OptionName)
  | [] => .ok (g, none)
  | c :: rest =>
    match (OptionName.ofLetter? c).filter (·.isKnown command) with
    | none => .error (.usage (.unknownOption word))
    | some name =>
      if name.takesValue then
        match rest with
        | [] => .ok (g, some name)
        | '=' :: value => do pure (← addOption g name (String.ofList value), none)
        | value => do pure (← addOption g name (String.ofList value), none)
      else do readLetters command word (← addOption g name "") rest

/-- Reads a word with a long name behind two dashes. The result names an option whose value must
be the next word. -/
def readLong (command : Option CommandName) (word : String) (g : Given) (s : List Char) :
    Except Halt (Given × Option OptionName) :=
  let name := String.ofList (s.takeWhile (· != '='))
  match (OptionName.ofLong? name).filter (·.isKnown command), s.dropWhile (· != '=') with
  | none, _ => .error (.usage (.unknownOption word))
  | some name, _ :: value =>
    if name.takesValue then do pure (← addOption g name (String.ofList value), none)
    else .error (.usage (.unwantedValue name))
  | some name, [] =>
    if name.takesValue then .ok (g, some name)
    else do pure (← addOption g name "", none)

/-- Reads words up to the end. Before the command, the first word that is no option ends this
part; the words from there on are handed back. `waiting` is an option that waits for its value. -/
def readWords (command : Option CommandName) (g : Given) (waiting : Option OptionName) :
    List String → Except Halt (Given × List String)
  | [] =>
    match waiting with
    | some name => .error (.usage (.missingValue name))
    | none => .ok (g, [])
  | word :: rest =>
    match waiting with
    | some name =>
      if looksLikeOption word then .error (.usage (.missingValue name))
      else do readWords command (← addOption g name word) none rest
    | none =>
      match word.toList with
      | ['-', '-'] => do pure (← rest.foldlM (addArgument command) g, [])
      | '-' :: '-' :: s => do
        let (g, waiting) ← readLong command word g s
        readWords command g waiting rest
      | '-' :: c :: s => do
        let (g, waiting) ← readLetters command word g (c :: s)
        readWords command g waiting rest
      | _ =>
        if command.isNone then .ok (g, word :: rest)
        else do readWords command (← addArgument command g word) none rest

/-! ## Invocations -/

/-- What every command may be told. -/
structure Options where
  config : Option String := none
  cwd : Option String := none
  languages : List String := []
  format : Format := .json
  output : Option String := none
  noWrap : Bool := false
  noColor : Bool := false
  verbose : Bool := false
  deriving DecidableEq, Repr

/-- The options of the two parts of a command line. -/
def Options.ofGiven (outer inner : Given) : Options :=
  let value? := fun name => (inner.value? name).or (outer.value? name)
  { config := value? .config
    cwd := value? .cwd
    languages := if inner.languages.isEmpty then outer.languages else inner.languages
    format := ((value? .format).bind formatOfWord?).getD .json
    output := value? .output
    noWrap := (value? .noWrap).isSome
    noColor := (value? .noColor).isSome
    verbose := (value? .verbose).isSome }

/-- A command with its arguments. A file called `-` stands for the standard input. -/
inductive Command where
  | scan (file : String)
  | matchLine (line : String)
  | grammars
  | next (file : String) (cursor : Nat)
  | previous (file : String) (cursor : Nat)
  deriving DecidableEq, Repr

/-- The command with the arguments in its part of a command line. -/
def Command.ofGiven? (name : CommandName) (g : Given) : Option Command :=
  let cursor? := (g.value? .cursor).bind fun s => Text.numeral? Text.largest64 s.toList
  match name, g.arguments.head? with
  | .scan, file? => some (.scan (file?.getD "-"))
  | .grammars, _ => some .grammars
  | .matchLine, some line => some (.matchLine line)
  | .next, some file => some (.next file (cursor?.getD 0))
  | .previous, some file => some (.previous file (cursor?.getD Text.largest64))
  | _, none => none

/-- A command and its options. -/
structure Invocation where
  options : Options
  command : Command
  deriving DecidableEq, Repr

/-- What help is asked for: that of the program or of one command. -/
def readHelp : List String → Halt
  | [] => .help
  | [word] =>
    if word == "help" || (CommandName.ofWord? word).isSome then .help
    else .usage (.unknownCommand word)
  | _ :: word :: _ => .usage (.unknownCommand word)

/-- What the words of a command line ask for. -/
def Invocation.ofWords (words : List String) : Except Halt Invocation := do
  let (outer, rest) ← readWords none {} none words
  match rest with
  | [] => throw (.usage .missingCommand)
  | word :: rest =>
    if word == "help" then throw (readHelp rest)
    let some name := CommandName.ofWord? word | throw (.usage (.unknownCommand word))
    let (inner, _) ← readWords (some name) {} none rest
    let some command := Command.ofGiven? name inner | throw (.usage .missingArgument)
    pure ⟨Options.ofGiven outer inner, command⟩

end TraceScan.CommandLine
