import ScriptLayout.Lexeme
import ScriptLayout.Span
import ScriptLayout.Text.Quoted

/-!
# Tokens

A lexeme with its place in the source and the lexeme before it.
-/

namespace ScriptLayout

/-- A lexeme at its place. -/
structure Token extends Lexeme where
  /-- Where the token stands. -/
  span : Span
  /-- The lexeme before it, if it is not the first. -/
  previous : Option Lexeme
  deriving DecidableEq, Repr

namespace Token

/-- The kind of the token before; that of the first token is unknown. -/
def previousKind (t : Token) : Kind :=
  (t.previous.map Lexeme.kind).getD .unknown

/-- The text of the token before. -/
def previousText? (t : Token) : Option String :=
  t.previous.map Lexeme.text

/-- A token in full: its kind, its text in quotes and its place. -/
def describe (t : Token) : String :=
  t.kind.label ++ "(" ++ Text.quoted t.text ++ " @ " ++ t.span.place ++ ")"

/-- A token as a line of a listing: its place, its kind and its text. -/
def listing (t : Token) : String :=
  t.span.place ++ " " ++ t.kind.name ++ " " ++ t.text ++ "\n"

end Token

end ScriptLayout
