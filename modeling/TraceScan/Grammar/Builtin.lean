import TraceScan.Grammar.Builtin.Interpreted
import TraceScan.Grammar.Builtin.Managed
import TraceScan.Grammar.Builtin.Native

/-!
# The built-in grammars

Seventeen grammars, by the name of their language and in the order in which they are registered.
-/

namespace TraceScan.Builtin

/-- The built-in grammars in the order of registration. -/
def all : List Definition :=
  [python, csharp, javascript, java, go, rust, lua, ruby, php, perl, elixir, erlang, swift,
    kotlin, haskell, c, cpp]

/-- The names of the built-in grammars. -/
def names : List String :=
  ["python", "csharp", "javascript", "java", "go", "rust", "lua", "ruby", "php", "perl",
    "elixir", "erlang", "swift", "kotlin", "haskell", "c", "cpp"]

/-- The built-in grammar of a language. -/
def find? (language : String) : Option Definition :=
  all.find? (·.name == language)

/-- The names are those of the grammars, in the same order. -/
theorem map_name_all : all.map Definition.name = names := rfl

end TraceScan.Builtin
