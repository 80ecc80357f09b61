import TraceScan.Grammar.Builtin.Basic

/-!
# Languages of virtual machines

C#, Java, Kotlin, Elixir and Erlang. Java's frame rule takes sources of any extension, so it also
matches Kotlin frames; Kotlin has the higher priority and wins those lines.
-/

namespace TraceScan.Builtin

/-! ## C# -/

/-- Exception frames and the diagnostics of the compiler. -/
def csharp : Definition :=
  { name := "csharp"
    description := some ".NET stack frames and C# compiler diagnostics"
    rules := [
      (Rule.of r"at (.+?) in (.+?\.cs):line (\d+)" 2 3).context 1,
      (Rule.of r"^\s*(.+?\.cs)\((\d+)(?:,(\d+))?\)" 1 2).column 3] }

/-! ## Java and Kotlin -/

/-- Frames `at class.method(File.ext:line)` and the diagnostics of the compiler and of builds. -/
def java : Definition :=
  { name := "java"
    description := some "Java stack frames and javac diagnostics"
    rules := [
      (Rule.of r"at ([\w$.<>/]+)\(([\w$.\-]+\.\w+):(\d+)\)" 2 3).context 1,
      (Rule.of
        r"^(?:\[(?:ERROR|WARNING)\] )?([^\s:]+\.java):\[?(\d+)(?:[,:](\d+)\]?)?" 1 2).column 3] }

/-- Lines that only Kotlin builds and traces hold. -/
def kotlinMarker : Pattern := .ofText r"\.kts?:\d+|\bkotlin\.|^[ew]: "

/-- Frames in Kotlin sources and the two forms of compiler diagnostics. -/
def kotlin : Definition :=
  { name := "kotlin"
    description := some "Kotlin stack frames and kotlinc diagnostics"
    priority := 5
    rules := [
      (Rule.of r"at ([\w$.<>/]+)\(([\w$.\-]+\.kts?):(\d+)\)" 2 3).context 1,
      (Rule.of r"^[ew]: (?:file://)?([^\s]+?\.kts?):(\d+):(\d+)" 1 2).column 3,
      (Rule.of r"^[ew]: ([^\s]+?\.kts?): \((\d+), (\d+)\)" 1 2).column 3]
    contextMatch := some (windowHas kotlinMarker) }

/-! ## Elixir and Erlang -/

/-- Stack traces, with the function behind the location, and compiler diagnostics. -/
def elixir : Definition :=
  { name := "elixir"
    description := some "Elixir stacktraces and compiler diagnostics"
    rules := [
      ((Rule.of r"([^\s:()]+\.exs?):(\d+)(?::(\d+))?(?:: ([\w.!?]+/\d+))?" 1 2).column 3).context
        4] }

/-- The file and line of a stack trace entry. -/
def fileAndLine : String := "\\\x7bfile,\"([^\"]+)\"\\\x7d,\\s*\\\x7bline,(\\d+)\\\x7d"

/-- Stack trace tuples, with and without their function, and compiler diagnostics. -/
def erlang : Definition :=
  { name := "erlang"
    description := some "Erlang stacktrace tuples and erlc diagnostics"
    rules := [
      (Rule.of ("\\\x7b([\\w']+,[\\w']+),\\d+,\\s*\\[" ++ fileAndLine) 2 3).context 1,
      Rule.of fileAndLine 1 2,
      (Rule.of r"^\s*([^\s:]+\.[eh]rl):(\d+):(?:(\d+):)?" 1 2).column 3] }

end TraceScan.Builtin
