import ScriptLayout.Files.Error
import ScriptLayout.Lexer

/-!
# Failures

What makes a run of the command fail, with the message that the user gets.
-/

namespace ScriptLayout

/-- Why options cannot be loaded from a settings file. -/
inductive ConfigError where
  /-- The file cannot be read. -/
  | unreadable (path : String) (cause : FileError)
  /-- The file does not hold settings. -/
  | invalid (path : String)
  deriving DecidableEq, Repr

/-- The wording of the error. -/
def ConfigError.message : ConfigError → String
  | unreadable path cause => "failed to read '" ++ path ++ "': " ++ cause.reason
  | invalid path => "invalid options in '" ++ path ++ "'"

namespace Command

/-- Where a source comes from. -/
inductive Input where
  /-- The standard input. -/
  | stdin
  /-- A file. -/
  | file (path : String)
  deriving DecidableEq, Repr

/-- The name under which the source is reported. -/
def Input.name : Input → String
  | stdin => "<stdin>"
  | file path => path

/-- What makes a run fail. -/
inductive Failure where
  /-- The options cannot be loaded. -/
  | config (cause : ConfigError)
  /-- The standard input is named twice. -/
  | stdinRepeated
  /-- The standard input is to be rewritten. -/
  | stdinRewritten
  /-- A source cannot be read. -/
  | unreadable (input : Input) (cause : FileError)
  /-- A source cannot be laid out. -/
  | unformatted (input : Input) (cause : LookaheadPending)
  /-- A file cannot be rewritten. -/
  | unwritable (path : String) (cause : FileError)
  deriving DecidableEq, Repr

/-- The message of a failure: what could not be done, and each cause in turn. -/
def Failure.message : Failure → String
  | config (.unreadable path cause) =>
    "error: " ++ (ConfigError.unreadable path cause).message ++ ": " ++ cause.reason
  | config (.invalid path) => "error: " ++ (ConfigError.invalid path).message
  | stdinRepeated => "error: stdin (\x60-\x60) can only be given once"
  | stdinRewritten => "error: --write needs file paths; stdin cannot be rewritten in place"
  | unreadable .stdin cause => "error: failed to read stdin: " ++ cause.reason
  | unreadable (.file path) cause => "error: failed to read '" ++ path ++ "': " ++ cause.reason
  | unformatted input cause => "error: failed to format " ++ input.name ++ ": " ++ cause.message
  | unwritable path cause => "error: failed to write '" ++ path ++ "': " ++ cause.reason

end Command

end ScriptLayout
