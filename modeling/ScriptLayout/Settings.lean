import ScriptLayout.Options
import ScriptLayout.Toml.Document

/-!
# Settings files

The options of a layout may be kept in a flat TOML document with a key for each
of them. What a document does not mention stays as it is by default; a key or a
value that means nothing makes the whole document invalid.
-/

namespace ScriptLayout.Options

/-- Chooses one option by its key, if the key and the value mean one. -/
def set? (o : Options) (key : String) (value : Toml.Value) : Option Options :=
  match key, value with
  | "indent", .text unit => some { o with indent := unit }
  | "newline_between_functions", .flag b => some { o with newlineBetweenFunctions := b }
  | "open_brace_on_new_line", .flag b => some { o with openBraceOnNewLine := b }
  | "newline_before_line_comment", .flag b => some { o with newlineBeforeLineComment := b }
  | "newline_before_inline_comment", .flag b => some { o with newlineBeforeInlineComment := b }
  | "newline_after_inline_comment", .flag b => some { o with newlineAfterInlineComment := b }
  | _, _ => none

/-- The options that a settings file chooses. -/
def ofToml? (document : String) : Option Options := do
  (← Toml.read? document).foldlM (fun o (key, value) => o.set? key value) standard

end ScriptLayout.Options
