import ScriptLayout.Text.Search

/-!
# Comments

A line comment goes from two slashes to the end of its line, which it does not
contain. An inline comment goes from its opening slash and star through the
next star and slash, which are not those of the opening; one that is never
closed goes to the end of the text.
-/

namespace ScriptLayout.Lexeme

/-- Whether a character ends a line comment or an unfinished regular expression. -/
def isLineBreak (c : Char) : Bool :=
  c == '\r' || c == '\n'

/-- The number of characters of the line comment that a text starts with. -/
def lineCommentExtent (text : List Char) : Nat :=
  (text.takeWhile fun c => !isLineBreak c).length

theorem lineCommentExtent_pos (text : List Char) : 0 < lineCommentExtent ('/' :: text) := by
  simp [lineCommentExtent, isLineBreak]

/-- The number of characters of the inline comment whose body is given. -/
def inlineCommentExtent (body : List Char) : Nat :=
  match Text.find? ['*', '/'] body with
  | some n => 2 + n + 2
  | none => 2 + body.length

theorem inlineCommentExtent_pos (body : List Char) : 0 < inlineCommentExtent body := by
  unfold inlineCommentExtent
  split <;> omega

end ScriptLayout.Lexeme
