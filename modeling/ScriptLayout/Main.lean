import ScriptLayout.Command.Run

/-!
# The command line

The command in the surroundings of the operating system: the files and streams
of the process, with the outcome reported on the standard error and by the exit
status.
-/

namespace ScriptLayout.Command

/-- The cause of a failed operation on a file. Error numbers may come negated. -/
def fileErrorOf : IO.Error → FileError
  | .noFileOrDirectory .. => .notFound
  | .inappropriateType file code details =>
    match min code (0 - code) with
    | 20 => .notDirectory
    | 21 => .isDirectory
    | _ => .other (toString (IO.Error.inappropriateType file code details))
  | e => .other (toString e)

/-- An operation on a file, with its failure as a value. -/
def attempt {α : Type} (action : IO α) : IO (Except FileError α) := do
  match ← action.toBaseIO with
  | .ok a => return .ok a
  | .error e => return .error (fileErrorOf e)

instance : Host IO where
  readFile path := do return (← attempt (IO.FS.readBinFile path)).bind decodeText
  writeFile path text := attempt (IO.FS.writeFile path text)
  readStdin := do
    let stdin ← IO.getStdin
    return (← attempt stdin.readBinToEnd).bind decodeText
  print text := do
    let stdout ← IO.getStdout
    stdout.putStr text
    stdout.flush

end ScriptLayout.Command

open ScriptLayout.Command in
/-- Carries out the command line, and says on the standard error what went wrong. -/
def main (words : List String) : IO UInt32 := do
  let outcome ← execute words
  match outcome with
  | .misused => IO.eprintln "error: invalid arguments; try '--help'"
  | .failed cause => IO.eprintln cause.message
  | .explained | .finished _ => pure ()
  return outcome.status.toUInt32
