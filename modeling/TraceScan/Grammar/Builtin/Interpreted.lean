import TraceScan.Grammar.Builtin.Basic

/-!
# Interpreted languages

Python, JavaScript, Lua, Ruby, PHP and Perl: tracebacks of their interpreters and the reports of
their test runners and linters.
-/

namespace TraceScan.Builtin

/-! ## Python -/

/-- Lines that only Python tracebacks and reports hold. -/
def tracebackMarker : Pattern := .ofText
  "Traceback \\(most recent call last\\)|^\\s*File \"[^\"]+\", line \\d+|\\.py:\\d+"

/-- Frames of a traceback, and `path.py:line` as linters and test runners print it. Angle brackets
stand around what is not a file. -/
def python : Definition :=
  { name := "python"
    description := some "Python tracebacks and pytest/mypy/ruff locations"
    rules := [
      (Rule.of "File \"([^\"<>]+)\", line (\\d+)(?:, in (.+))?" 1 2).context 3,
      (Rule.of "([^\\s:\"'()\\[\\]]+\\.pyi?):(\\d+)(?::(\\d+))?" 1 2).column 3]
    contextMatch := some (windowHas tracebackMarker) }

/-! ## JavaScript -/

/-- Lines that only JavaScript stack traces hold. -/
def frameMarker : Pattern := .ofText
  r"^\s+at |^\w*Error\b|node:internal|\bnode_modules\b"

/-- The extensions of JavaScript and TypeScript sources. -/
def scriptExtension : String := r"\.(?:[cm]?[jt]sx?|vue|svelte)"

/-- Stack frames with and without a function, `file(line,column)` of the TypeScript compiler, and
`file:line:column` of linters and bundlers. -/
def javascript : Definition :=
  { name := "javascript"
    description := some "Node.js / V8 stack frames and TypeScript compiler output"
    rules := [
      ((Rule.of (r"at (?:async )?(.+?) \(((?:file://)?[^\s()]+?" ++ scriptExtension
        ++ r"):(\d+):(\d+)\)") 2 3).column 4).context 1,
      (Rule.of (r"at (?:async )?((?:file://)?[^\s()]+?" ++ scriptExtension
        ++ r"):(\d+):(\d+)") 1 2).column 3,
      (Rule.of (r"^([^\s()]+?" ++ scriptExtension ++ r")\((\d+),(\d+)\)") 1 2).column 3,
      (Rule.of (r"([^\s:()]+" ++ scriptExtension ++ r"):(\d+)(?::(\d+))?") 1 2).column 3]
    contextMatch := some (windowHas frameMarker) }

/-! ## Lua, Ruby, PHP and Perl -/

/-- Lines that only Lua errors hold. -/
def luaMarker : Pattern := .ofText r"stack traceback:|^lua: |E5108: "

/-- Errors, `lua: test.lua:5: …`, and the frames below them. -/
def lua : Definition :=
  { name := "lua"
    description := some "Lua errors and stack tracebacks"
    rules := [
      (Rule.of
        "([^\\s:'\"\\[\\]]+\\.lua):(\\d+)(?::(?: in (?:\\w+ )?'?([^'\\s]+)'?)?)?" 1 2).context 3]
    contextMatch := some (windowHas luaMarker) }

/-- Backtraces, with either kind of quote in front of the method, and bare locations. -/
def ruby : Definition :=
  { name := "ruby"
    description := some "Ruby backtraces, RSpec and minitest locations"
    rules := [
      (Rule.of ("([^\\s:'\"]+\\.(?:rb|rake)):(\\d+):in [\x60']"
        ++ "(?:(?:block|rescue|ensure) (?:\\(\\d+ levels\\) )?in )?([^'\x60]+)'") 1 2).context 3,
      Rule.of "([^\\s:'\"#]+\\.(?:rb|rake|erb)):(\\d+)" 1 2] }

/-- Exception traces, messages that end in a location, and locations on a line of their own. -/
def php : Definition :=
  { name := "php"
    description := some "PHP fatal errors, exception traces and PHPUnit output"
    rules := [
      (Rule.of (r"#\d+ (" ++ drive ++ r"[^\s:()]+\.php)\((\d+)\)(?:: (.+))?") 1 2).context 3,
      Rule.of (r"\b(?:in|at) (" ++ drive ++ r"[^\s:()]+\.php)(?: on line |:)(\d+)") 1 2,
      Rule.of (r"^\s*(" ++ drive ++ r"[^\s:()]+\.php):(\d+)\s*$") 1 2] }

/-- Messages that end in `at file line n`, and calls in a longer trace. -/
def perl : Definition :=
  { name := "perl"
    description := some "Perl die/warn messages and Carp traces"
    rules := [
      (Rule.of
        r"(?:^\s*([\w:]+)\(.*\) called )?at (.+?\.(?:pl|pm|t|cgi)) line (\d+)" 2 3).context 1] }

end TraceScan.Builtin
