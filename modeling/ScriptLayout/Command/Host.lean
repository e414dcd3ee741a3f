import ScriptLayout.Files.Directory

/-!
# Hosts

What a command needs of its surroundings, as operations of a monad (`Host`), and
surroundings that are held in memory (`World`), in which runs of a command can
be reasoned about.
-/

namespace ScriptLayout.Command

/-- A monad in which files and the standard streams can be used. -/
class Host (m : Type → Type) where
  /-- The text of a file. -/
  readFile (path : String) : m (Except FileError String)
  /-- Replaces the text of a file. -/
  writeFile (path text : String) : m (Except FileError Unit)
  /-- The text of the standard input. -/
  readStdin : m (Except FileError String)
  /-- Writes to the standard output. -/
  print (text : String) : m Unit

/-- A directory and the standard streams. -/
structure World where
  /-- The directory in which the command runs. -/
  directory : Directory
  /-- The bytes of the standard input. -/
  stdin : ByteArray
  /-- What has been printed so far. -/
  stdout : String := ""

instance : Host (StateM World) where
  readFile path := do return (← get).directory.readText path
  writeFile path text := do
    let w ← get
    match w.directory.writeText path text with
    | .ok directory =>
      set { w with directory }
      return .ok ()
    | .error e => return .error e
  readStdin := do return decodeText (← get).stdin
  print text := modify fun w => { w with stdout := w.stdout ++ text }

end ScriptLayout.Command
