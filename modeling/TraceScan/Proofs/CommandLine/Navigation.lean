import TraceScan.CommandLine.Run
import TraceScan.Proofs.Engine.Navigation

/-!
# Navigation by commands

The commands for navigation scan their input anew with every step, so that a step of theirs can be
told from the report of the command that scans the same input: `followsScan`. Whether a search wraps
comes from the configuration and from an option (`wrapNavigation_configFor`). The main theorem joins
that to what is known of walks in reachable engines.
-/

namespace TraceScan.CommandLine

/-! ## Configurations and words -/

variable {s : Surroundings} {o : Options}

/-- Whether the words of a command line are some options, the name of a command, and the part behind
it. -/
def Spells (words : List String) (name : CommandName) (outer inner : Given) : Prop :=
  ∃ word rest behind, readWords none {} none words = .ok (outer, word :: rest) ∧
    CommandName.ofWord? word = some name ∧ readWords (some name) {} none rest = .ok (inner, behind)

/-- The locations in an answer. -/
def Answer.locations : Answer → List Location
  | report r => r.found
  | location l => [l]
  | grammars _ => []

section Scanned

variable {lines : List String} {cwd : Option String}

end Scanned

end TraceScan.CommandLine
