/-!
# Command-line arguments

A command line names files, raises flags and gives values to settings. Words
are read in order; a setting takes its value after an equals sign or from the
next word, which must not look like an option, and two hyphens make all words
after them names of files. A word that fits nowhere, an option given twice, and
flags that exclude each other are errors of usage.
-/

namespace ScriptLayout.Command

/-- The options that are given or not. -/
inductive Flag where
  /-- Opening braces begin lines. -/
  | braceOnNewLine
  /-- No empty lines between functions. -/
  | noFunctionSpacing
  /-- Comments do not begin lines. -/
  | commentsInline
  /-- Inline comments do not end lines. -/
  | noBreakAfterComment
  /-- Files are rewritten in place. -/
  | write
  /-- Files that would change are named. -/
  | check
  /-- Tokens are listed instead. -/
  | tokens
  /-- Progress is reported. -/
  | verbose
  deriving DecidableEq, Repr

/-- The flag of a name. -/
def Flag.ofName? : String → Option Flag
  | "brace-on-new-line" => some braceOnNewLine
  | "no-function-spacing" => some noFunctionSpacing
  | "comments-inline" => some commentsInline
  | "no-break-after-comment" => some noBreakAfterComment
  | "write" => some write
  | "check" => some check
  | "tokens" => some tokens
  | "verbose" => some verbose
  | _ => none

/-- What a command line asks for. -/
structure Arguments where
  /-- The files, as they are named. -/
  files : List String := []
  /-- The settings file. -/
  config : Option String := none
  /-- The unit of indentation, with tabs written out. -/
  indent : Option String := none
  /-- The flags raised. -/
  flags : List Flag := []
  /-- Whether an explanation of the command is asked for instead. -/
  help : Bool := false
  deriving DecidableEq, Repr

/-- What a word of a command line looks like. -/
inductive Word where
  /-- Two hyphens. -/
  | endOfOptions
  /-- Two hyphens, a name, and perhaps a value after an equals sign. -/
  | long (name : String) (value : Option String)
  /-- A hyphen and letters. -/
  | short (letters : List Char)
  /-- Anything else, and a single hyphen. -/
  | plain
  deriving DecidableEq, Repr

/-- What a word looks like. -/
def Word.ofString (word : String) : Word :=
  match word.toList with
  | ['-'] => .plain
  | ['-', '-'] => .endOfOptions
  | '-' :: '-' :: text =>
    let name := String.ofList (text.takeWhile (· != '='))
    match text.dropWhile (· != '=') with
    | [] => .long name none
    | _ :: value => .long name (some (String.ofList value))
  | '-' :: letters => .short letters
  | _ => .plain

namespace Arguments

/-- Whether a flag is raised. -/
def has (a : Arguments) (flag : Flag) : Bool :=
  a.flags.contains flag

/-- Raises a flag, unless it is raised. -/
def raise? (a : Arguments) (flag : Flag) : Option Arguments :=
  if a.has flag then none else some { a with flags := flag :: a.flags }

/-- Names one more file. A name is not empty. -/
def addFile? (a : Arguments) (file : String) : Option Arguments :=
  if file.isEmpty then none else some { a with files := a.files ++ [file] }

/-- Gives a value to a setting, unless it has one. The name of a file is not empty. -/
def set? (a : Arguments) (setting value : String) : Option Arguments :=
  match setting with
  | "config" => if a.config.isSome || value.isEmpty then none else some { a with config := value }
  | "indent" => if a.indent.isSome then none else some { a with indent := value }
  | _ => none

/-- Reads the letters of a word, up to one that asks for an explanation. -/
def letters? (a : Arguments) : List Char → Option Arguments
  | [] => some a
  | 'v' :: letters => (a.raise? .verbose).bind (letters? · letters)
  | 'h' :: _ => some { a with help := true }
  | _ :: _ => none

/-- Reads the words after what has been read, up to one that asks for an
    explanation. -/
def readFrom? (a : Arguments) : List String → Option Arguments
  | [] => some a
  | word :: words =>
    match Word.ofString word with
    | .endOfOptions => words.foldlM addFile? a
    | .plain => (a.addFile? word).bind (readFrom? · words)
    | .short letters =>
      (a.letters? letters).bind fun a => if a.help then some a else readFrom? a words
    | .long setting (some value) => (a.set? setting value).bind (readFrom? · words)
    | .long name none =>
      if name = "help" then some { a with help := true }
      else
        match Flag.ofName? name with
        | some flag => (a.raise? flag).bind (readFrom? · words)
        | none =>
          match words with
          | [] => none
          | value :: words =>
            if Word.ofString value = .plain then (a.set? name value).bind (readFrom? · words)
            else none

/-- Whether flags are raised that exclude each other. -/
def conflicting (a : Arguments) : Bool :=
  (a.has .write && (a.has .check || a.has .tokens)) || (a.has .check && a.has .tokens)

/-- Reads a command line; nothing if it is not one. -/
def read? (words : List String) : Option Arguments := do
  let a ← readFrom? {} words
  if a.conflicting && !a.help then none else some a

end Arguments

end ScriptLayout.Command
