import Std.Time.Format
import TraceScan.CommandLine.Run

/-!
# The program

Reads the files that a command line asks for, runs the command and writes its outcome.
-/

namespace TraceScan.CommandLine

/-- The bytes of a stream, behind those that were read before. -/
partial def readAll (input : IO.FS.Stream) (bytes : ByteArray) : IO ByteArray := do
  let more ← input.read 65536
  if more.isEmpty then pure bytes else readAll input (bytes ++ more)

/-- The text of a file, or why it cannot be read. -/
def readFile (path : String) : IO (Except FileError String) := do
  try
    pure (textOfBytes (← IO.FS.readBinFile path))
  catch e =>
    match e with
    | .noFileOrDirectory .. => pure (.error .missing)
    | _ => pure (.error .isDirectory)

/-- The working directory, if it can be told. -/
def workingDirectory? : IO (Option String) := do
  try
    pure (some (← IO.currentDir).toString)
  catch _ => pure none

/-- What an invocation finds around it. An empty `HOME` names no home directory. -/
def surroundingsOf (i : Invocation) : IO Surroundings := do
  let read := i.options.config.toList ++ (i.command.file?.filter (· != "-")).toList
  let files ← read.mapM fun path => do pure (path, ← readFile path)
  let input ←
    if i.command.file? == some "-" then do
      pure (textOfBytes (← readAll (← IO.getStdin) ByteArray.empty))
    else pure (.ok "")
  pure {
    home := (← IO.getEnv "HOME").filter (!·.isEmpty)
    directory := ← workingDirectory?
    file := fun path => (files.lookup path).getD (.error .missing)
    input := input }

/-- The present time in UTC. -/
def presentTime : IO String := do
  let now := Std.Time.DateTime.ofTimestampWithZone (← Std.Time.Timestamp.now) .UTC
  pure (now.format "uuuu-MM-dd'T'HH:mm:ss.SSSSSSSSSxxx")

/-- Writes the outcome of a command line. The result is the exit status. -/
def writeOutcome (o : Outcome) : IO UInt32 := do
  for notice in o.notice.toList do
    IO.eprintln notice
  for message in o.error.toList do
    IO.eprintln ("Error: " ++ message)
  (← IO.getStdout).putStr o.output
  pure o.status.toUInt32

/-- Writes the file of an outcome, if there is one, and then the outcome. -/
def finish (o : Outcome) : IO UInt32 := do
  match o.written with
  | none => writeOutcome o
  | some (path, text) =>
    let failed ← try
      IO.FS.writeFile path text
      pure false
    catch _ => pure true
    if failed then writeOutcome { Outcome.ofFailure (.output path) with notice := o.notice }
    else writeOutcome o

/-- Runs a command that was read from a command line. -/
def perform (i : Invocation) : IO UInt32 := do
  let s ← surroundingsOf i
  let color ← (← IO.getStdout).isTty
  let started ← IO.monoMsNow
  match answer s i with
  | .error failure => finish (.ofFailure failure)
  | .ok a =>
    let ended ← IO.monoMsNow
    let a := a.stamped (ended - started) (← presentTime)
    finish (.ofAnswer (fun _ => true) color i.options a)

end TraceScan.CommandLine

open TraceScan.CommandLine in
/-- Finds and navigates the source locations in the output of programs. -/
def main (words : List String) : IO UInt32 := do
  match Invocation.ofWords words with
  | .ok i => perform i
  | .error halt =>
    let o := Outcome.ofHalt halt
    if o.status == 2 then IO.eprintln "error: the command line cannot be read; try --help"
    finish o
