/-!
# File errors

Why a file cannot be read or written, with the wording that tells the user.
-/

namespace ScriptLayout

/-- Why a file cannot be read or written. -/
inductive FileError where
  /-- There is nothing of that name. -/
  | notFound
  /-- The name goes on after that of a file. -/
  | notDirectory
  /-- The name is that of a directory. -/
  | isDirectory
  /-- The contents are not valid UTF-8. -/
  | notText
  /-- Anything else, as the system words it. -/
  | other (reason : String)
  deriving DecidableEq, Repr

/-- The wording of the error. -/
def FileError.reason : FileError → String
  | notFound => "No such file or directory (os error 2)"
  | notDirectory => "Not a directory (os error 20)"
  | isDirectory => "Is a directory (os error 21)"
  | notText => "stream did not contain valid UTF-8"
  | other reason => reason

/-- The text with the given bytes. -/
def decodeText (bytes : ByteArray) : Except FileError String :=
  match String.fromUTF8? bytes with
  | some text => .ok text
  | none => .error .notText

end ScriptLayout
