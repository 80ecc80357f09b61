import TraceScan.Grammar.Builtin.Basic

/-!
# Languages compiled to machine code

Go, Rust, Swift, Haskell, C and C++. C and C++ share header files: both grammars match a diagnostic
in a header, C comes first, and the context opinion of C++ claims the line inside a C++ build.
-/

namespace TraceScan.Builtin

/-! ## Go, Rust, Swift and Haskell -/

/-- Lines that only Go panics and test runs hold. -/
def goMarker : Pattern := .ofText r"^goroutine \d+ \[|^panic: |^--- FAIL|^FAIL\s"

/-- Frames of panics, and `file:line:column` of the compiler and of tests. -/
def go : Definition :=
  { name := "go"
    description := some "Go panics, compiler errors and test failures"
    rules := [
      Rule.of (r"^\s+(" ++ path ++ r"\.go):(\d+)(?: \+0x[0-9a-fA-F]+)?$") 1 2,
      (Rule.of (r"(" ++ path ++ r"\.go):(\d+)(?::(\d+))?") 1 2).column 3]
    contextMatch := some (windowHas goMarker) }

/-- Lines that only Rust diagnostics and panics hold. -/
def rustMarker : Pattern := .ofText
  r"panicked at|^stack backtrace:|^\s*--> |^error(?:\[E\d+\])?:"

/-- The arrow of a diagnostic, the place of a panic, and frames of a backtrace. -/
def rust : Definition :=
  { name := "rust"
    description := some "rustc diagnostics, panics and backtraces"
    rules := [
      (Rule.of (r"--> (" ++ path ++ r"\.rs):(\d+):(\d+)") 1 2).column 3,
      (Rule.of (r"panicked at (?:'.*', )?(" ++ path ++ r"\.rs):(\d+):(\d+)") 1 2).column 3,
      (Rule.of (r"^\s+at (" ++ path ++ r"\.rs):(\d+)(?::(\d+))?") 1 2).column 3]
    contextMatch := some (windowHas rustMarker) }

/-- Compiler diagnostics, runtime traps and frames. -/
def swift : Definition :=
  { name := "swift"
    description := some "swiftc diagnostics and Swift runtime traps"
    rules := [
      (Rule.of
        (r"(" ++ path ++ r"\.swift):(\d+):(\d+): (?:error|warning|note)") 1 2).column 3,
      Rule.of r"file (.+?\.swift), line (\d+)" 1 2,
      (Rule.of (r"at (" ++ path ++ r"\.swift):(\d+)(?::(\d+))?") 1 2).column 3] }

/-- Diagnostics at a place or a range of places, and call stacks. -/
def haskell : Definition :=
  { name := "haskell"
    description := some "GHC diagnostics and HasCallStack traces"
    rules := [
      (Rule.of (r"^\s*(" ++ drive ++ r"[^\s:()]+\.l?hs):(\d+):(\d+)(?:-\d+)?:") 1 2).column 3,
      (Rule.of
        (r"^\s*(" ++ drive ++ r"[^\s:()]+\.l?hs):\((\d+),(\d+)\)-\(\d+,\d+\):") 1 2).column 3,
      ((Rule.of
        (r"called at (" ++ drive ++ r"[^\s:()]+\.l?hs):(\d+):(\d+) in (\S+)") 1 2).column
          3).context 4] }

/-! ## C and C++ -/

/-- Lines that only C builds hold. -/
def cMarker : Pattern := .ofText r"\.c:\d+|\bgcc\b|\bcc1\b|\bclang(?:\s|:|$)"

/-- Lines that only C++ builds hold. -/
def cppMarker : Pattern := .ofText
  r"\.(?:cpp|cc|cxx|hpp|hh|hxx):\d+|g\+\+|clang\+\+|cc1plus|std::|\btemplate\b"

/-- The extensions of C++ sources and of the headers that C++ shares with C. -/
def cppExtension : String := r"\.(?:cpp|cc|cxx|c\+\+|hpp|hh|hxx|h\+\+|ipp|tpp|inl|h)"

/-- Sanitizer and debugger frames, `file(line,column)` and `file:line:column`. -/
def c : Definition :=
  { name := "c"
    description := some "C compiler diagnostics and sanitizer/gdb frames"
    rules := [
      ((Rule.of
        (r"#\d+ 0x[0-9a-fA-F]+ in (\S+) (" ++ path ++ r"\.[ch]):(\d+)(?::(\d+))?") 2 3).column
          4).context 1,
      (Rule.of r"^\s*(.+?\.[ch])\((\d+)(?:,(\d+))?\)" 1 2).column 3,
      (Rule.of (r"(" ++ path ++ r"\.[ch]):(\d+)(?::(\d+))?") 1 2).column 3]
    contextMatch := some (windowHas cMarker) }

/-- The same forms as for C, with functions that hold blanks. -/
def cpp : Definition :=
  { name := "cpp"
    description := some "C++ compiler diagnostics, including shared headers"
    rules := [
      ((Rule.of (r"#\d+ 0x[0-9a-fA-F]+ in (.+?) (" ++ path ++ cppExtension
        ++ r"):(\d+)(?::(\d+))?") 2 3).column 4).context 1,
      (Rule.of (r"^\s*(.+?" ++ cppExtension ++ r")\((\d+)(?:,(\d+))?\)") 1 2).column 3,
      (Rule.of (r"(" ++ path ++ cppExtension ++ r"):(\d+)(?::(\d+))?") 1 2).column 3]
    contextMatch := some (windowHas cppMarker) }

end TraceScan.Builtin
