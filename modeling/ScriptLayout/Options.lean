import ScriptLayout.Text.Tabs

/-!
# Layout options

What the writer of a layout may choose: where lines are broken (`Style`), and
the text of one level of indentation.
-/

namespace ScriptLayout

/-- Where the lines of a layout are broken. -/
structure Style where
  /-- Whether an empty line goes before a function that follows a closing brace. -/
  newlineBetweenFunctions : Bool := true
  /-- Whether an opening brace begins a line. -/
  openBraceOnNewLine : Bool := false
  /-- Whether a line comment begins a line. -/
  newlineBeforeLineComment : Bool := true
  /-- Whether an inline comment begins a line. -/
  newlineBeforeInlineComment : Bool := true
  /-- Whether an inline comment ends its line. -/
  newlineAfterInlineComment : Bool := true
  deriving DecidableEq, Repr

/-- The choices of a layout. -/
structure Options extends Style where
  /-- What one level of indentation consists of. -/
  indent : String := "    "
  deriving DecidableEq, Repr

namespace Options

/-- The choices where none are made. -/
def standard : Options := {}

/-- The unit of indentation that a text with written tabs stands for. -/
def unescapeIndent (text : String) : String :=
  String.ofList (Text.unescapeTabs text.toList)

/-- The unit of indentation with its tabs written out. -/
def escapedIndent (o : Options) : String :=
  String.ofList (Text.escapeTabs o.indent.toList)

end Options

end ScriptLayout
