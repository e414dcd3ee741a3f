/-!
# Spans

Where a token stands in its source: the line and the column of its first
character, and its length in bytes.
-/

namespace ScriptLayout

/-- The line and column at which a piece of text starts, and its length in bytes. -/
structure Span where
  /-- The line, counted from one. -/
  line : Nat
  /-- The column, counted in bytes from one. -/
  column : Nat
  /-- The number of bytes. -/
  length : Nat
  deriving DecidableEq, Repr

namespace Span

/-- The span of nothing, nowhere. -/
def none : Span := ⟨0, 0, 0⟩

/-- Whether nothing is covered. -/
def isEmpty (s : Span) : Bool :=
  s.length == 0

/-- The column after the span, if it stays on its line. -/
def endColumn (s : Span) : Nat :=
  s.column + s.length

/-- The start of the span as it is written: line and column. -/
def place (s : Span) : String :=
  s!"{s.line}:{s.column}"

end Span

end ScriptLayout
