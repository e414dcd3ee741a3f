import ScriptLayout.Command.Arguments
import ScriptLayout.Command.Failure
import ScriptLayout.Command.Host
import ScriptLayout.Format
import ScriptLayout.Settings

/-!
# Running the command

A run loads the options, settles where the sources come from, and then handles
the sources in order: each is read, its layout or its tokens are found
(`respond`), and the response is carried out before the next source is read. The
first failure ends the run, and what was done before it stays done; nothing is
done before the options are loaded and the inputs are settled.
-/

namespace ScriptLayout

open Command

variable {m : Type → Type} [Monad m] [Host m]

/-- Loads the options from a settings file. -/
def loadOptions (path : String) : m (Except ConfigError Options) := do
  match ← Host.readFile path with
  | .error cause => return .error (.unreadable path cause)
  | .ok text =>
    match Options.ofToml? text with
    | some options => return .ok options
    | none => return .error (.invalid path)

namespace Command

/-! ### What is asked for -/

/-- The options with what the command line changes in them. -/
def Arguments.adjust (a : Arguments) (o : Options) : Options where
  indent := (a.indent.map Options.unescapeIndent).getD o.indent
  openBraceOnNewLine := o.openBraceOnNewLine || a.has .braceOnNewLine
  newlineBetweenFunctions := o.newlineBetweenFunctions && !a.has .noFunctionSpacing
  newlineBeforeLineComment := o.newlineBeforeLineComment && !a.has .commentsInline
  newlineBeforeInlineComment := o.newlineBeforeInlineComment && !a.has .commentsInline
  newlineAfterInlineComment := o.newlineAfterInlineComment && !a.has .noBreakAfterComment

/-- The input that a word of the command line names. A single hyphen, also as the
    directory of that name, is the standard input. -/
def Input.ofWord (word : String) : Input :=
  match splitPath word with
  | "-" :: parts => if parts.all isStay then .stdin else .file word
  | _ => .file word

/-- The inputs that the command line names, in order; if none, the standard input.
    That can be read once only, and not be rewritten. -/
def Arguments.inputs (a : Arguments) : Except Failure (List Input) :=
  let inputs := if a.files.isEmpty then [.stdin] else a.files.map Input.ofWord
  if 1 < inputs.count .stdin then .error .stdinRepeated
  else if a.has .write && inputs.contains .stdin then .error .stdinRewritten
  else .ok inputs

/-- What is done with the sources. -/
inductive Mode where
  /-- The layouts are printed. -/
  | print
  /-- The tokens are listed. -/
  | tokens
  /-- The sources are named that differ from their layouts. -/
  | check
  /-- The files are replaced by their layouts. -/
  | write
  deriving DecidableEq, Repr

/-- What the command line says is to be done. -/
def Arguments.mode (a : Arguments) : Mode :=
  if a.has .tokens then .tokens
  else if a.has .check then .check
  else if a.has .write then .write
  else .print

/-! ### Handling a source -/

/-- What comes of a source. -/
structure Response where
  /-- What is printed. -/
  printed : String := ""
  /-- The new contents of the file, if it is to be rewritten. -/
  rewritten : Option String := none
  /-- Whether nothing is wrong with the source. -/
  clean : Bool := true
  deriving DecidableEq, Repr

/-- What comes of a source with the given layout. -/
def Mode.respondLayout (mode : Mode) (input : Input) (source output : String) : Response :=
  match mode, input with
  | .check, _ =>
    if output = source then {} else { printed := input.name ++ "\n", clean := false }
  | .write, .file _ => if output = source then {} else { rewritten := some output }
  | _, _ => { printed := output }

/-- What comes of a source. -/
def Mode.respond (mode : Mode) (options : Options) (input : Input) (source : String) :
    Except LookaheadPending Response :=
  if mode = .tokens then
    .ok { printed := String.join ((ScriptLayout.tokens source).map Token.listing) }
  else (format options source).map (mode.respondLayout input source)

/-- Reads a source. -/
def Input.read : Input → m (Except FileError String)
  | stdin => Host.readStdin
  | file path => Host.readFile path

/-- Carries out a response, and tells whether nothing was wrong. -/
def Response.perform (r : Response) (input : Input) : ExceptT Failure m Bool := do
  (Host.print r.printed : m Unit)
  match input, r.rewritten with
  | .file path, some text =>
    match ← (Host.writeFile path text : m (Except FileError Unit)) with
    | .ok () => return r.clean
    | .error cause => throw (.unwritable path cause)
  | _, _ => return r.clean

/-- Handles a source, and tells whether nothing was wrong with it. -/
def handle (mode : Mode) (options : Options) (input : Input) : ExceptT Failure m Bool := do
  match ← (input.read : m (Except FileError String)) with
  | .error cause => throw (.unreadable input cause)
  | .ok source =>
    match mode.respond options input source with
    | .error cause => throw (.unformatted input cause)
    | .ok r => r.perform input

/-- Handles sources in order, and tells whether nothing was wrong with any. -/
def handleAll (mode : Mode) (options : Options) : List Input → ExceptT Failure m Bool
  | [] => return true
  | input :: inputs => do
    let clean ← handle mode options input
    let others ← handleAll mode options inputs
    return clean && others

/-! ### A run -/

/-- The options that the command line asks for. -/
def Arguments.options (a : Arguments) : ExceptT Failure m Options := do
  match a.config with
  | none => return a.adjust .standard
  | some path =>
    match ← (loadOptions path : m (Except ConfigError Options)) with
    | .ok options => return a.adjust options
    | .error cause => throw (.config cause)

/-- Runs the command, and tells whether nothing was wrong with any source. -/
def run (a : Arguments) : ExceptT Failure m Bool := do
  let options ← a.options
  let inputs ← a.inputs
  handleAll a.mode options inputs

/-- How the command may end. -/
inductive Outcome where
  /-- The command line is not one. -/
  | misused
  /-- The command has been explained. -/
  | explained
  /-- The run has failed. -/
  | failed (cause : Failure)
  /-- The run has handled every source; it is clean if nothing was wrong with any. -/
  | finished (clean : Bool)
  deriving DecidableEq, Repr

/-- The exit status. -/
def Outcome.status : Outcome → Nat
  | explained | finished true => 0
  | finished false => 1
  | misused | failed _ => 2

/-- The explanation of the command. -/
def explanation : String :=
  "Re-indent and re-space script source text\n\n" ++
  "Arguments:\n" ++
  "  [FILES]...                files to format; - is stdin, printed to stdout; none reads stdin\n\n" ++
  "Options:\n" ++
  "  --config <PATH>           load options from a TOML file; flags below override it\n" ++
  "  --indent <TEXT>           indent unit; \\t stands for a tab\n" ++
  "  --brace-on-new-line       put opening braces on their own line\n" ++
  "  --no-function-spacing     no empty line between consecutive functions\n" ++
  "  --comments-inline         keep comments on the same line after a space\n" ++
  "  --no-break-after-comment  do not break the line after a /* */ comment\n" ++
  "  --write                   write the layouts back to the files\n" ++
  "  --check                   exit with status 1 if any file would change\n" ++
  "  --tokens                  print the token stream instead of formatting\n" ++
  "  -v, --verbose             log progress to stderr\n" ++
  "  -h, --help                print this help\n"

/-- Carries out a command line. -/
def execute (words : List String) : m Outcome := do
  match Arguments.read? words with
  | none => return .misused
  | some a =>
    if a.help then
      Host.print explanation
      return .explained
    else
      match ← (run a).run with
      | .ok clean => return .finished clean
      | .error cause => return .failed cause

end Command

end ScriptLayout
